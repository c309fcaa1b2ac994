import PackageAudit.Text.Keyed

namespace PackageAudit.Usage

/-- How one file imports and calls one package. Symbols are neither empty nor repeated. -/
structure Evidence where
  imports : List Text := []
  usages : List Text := []
  symbols : List Text := []
  lines : List Int := []
  complexity : Int := 0
deriving DecidableEq, Inhabited

def addSymbol (symbols : List Text) (name : Text) : List Text :=
  if name.isEmpty || symbols.contains name then symbols else symbols ++ [name]

def addSymbols (symbols names : List Text) : List Text := names.foldl addSymbol symbols

/-- What one file holds: evidence by package, in the order of first evidence, and counts. -/
structure Extraction where
  evidence : Keyed Evidence := []
  functions : Int := 0
  classes : Int := 0
  imports : Int := 0
  decisionPoints : Int := 0
deriving Inhabited

def Extraction.amend (x : Extraction) (package : Text) (change : Evidence → Evidence) :
    Extraction :=
  { x with evidence := x.evidence.amend package change }

end PackageAudit.Usage
