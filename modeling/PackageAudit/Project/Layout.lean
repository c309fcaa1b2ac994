import PackageAudit.File.Path

namespace PackageAudit.Project

def at_ (project : Path) (name : String) : Path := project.join (Path.ofText (Text.ofString name))

def directory (project : Path) : Path := at_ project ".depusage"

def configPath (project : Path) : Path := at_ (directory project) "config.json"

def resultsPath (project : Path) : Path := at_ (directory project) "results.json"

def manifestPath (project : Path) : Path := at_ project "package.json"

end PackageAudit.Project
