import PackageAudit.File.Path
import PackageAudit.Script.Dialect

namespace PackageAudit

open Script (Dialect)

structure Source where
  name : Text
  content : Text
deriving DecidableEq, Inhabited

namespace Source

def extensionOf (p : Path) : Text := Text.lower p.suffix

def typedExtensions : List (String × Dialect) :=
  [(".ts", .typed), (".mts", .typed), (".cts", .typed), (".tsx", .markupTyped)]

def dialectOf (extension : Text) : Dialect :=
  ((typedExtensions.find? fun e ↦ Text.ofString e.1 = extension).map (·.2)).getD .plain

def extension (s : Source) : Text := extensionOf (Path.ofText s.name)

def dialect (s : Source) : Dialect := dialectOf s.extension

def extensions : List String :=
  [".js", ".jsx", ".mjs", ".cjs", ".ts", ".tsx", ".mts", ".cts"]

end Source

def Script.Dialect.grammar : Dialect → String
  | .plain => "javascript"
  | .typed => "typescript"
  | .markupTyped => "tsx"

end PackageAudit
