import PackageAudit.Text.Case

namespace PackageAudit.Package

/-- Names that customarily stand for a package. -/
def customary : List (String × String) :=
  [("_", "lodash"), ("$", "jquery"), ("React", "react"), ("Vue", "vue"), ("axios", "axios"),
   ("moment", "moment")]

def customary? (identifier : Text) : Option Text :=
  (customary.find? fun c ↦ Text.ofString c.1 = identifier).map fun c ↦ Text.ofString c.2

def normalize (name : Text) : Text :=
  Text.lower (name.filter fun c ↦ c != .char '-' && c != .char '_')

/-- Whether a package name equals an identifier in small letters or in normal form. -/
def resembles (identifier name : Text) : Bool :=
  Text.lower name = Text.lower identifier || normalize name = normalize identifier

/-- The declared package that an identifier without a binding stands for. -/
def ofIdentifier? (declared : List Text) (identifier : Text) : Option Text :=
  if identifier.isEmpty then none
  else match customary? identifier with
    | some package =>
      if declared.contains package then some package else declared.find? (resembles identifier)
    | none => declared.find? (resembles identifier)

end PackageAudit.Package
