import PackageAudit.Text.CodePoint

namespace PackageAudit.Package

/-- The package of a module specifier: its first segment, or its first two if it starts with `@`.
Relative and absolute paths name local modules. -/
def ofSpecifier? (specifier : Text) : Option Text :=
  match specifier with
  | .char '.' :: _ | .char '/' :: _ => none
  | _ =>
    let segments := Text.splitOn (.char '/') specifier
    let count := if specifier.head? = some (.char '@') then 2 else 1
    some (Text.joinWith [.char '/'] (segments.take count))

end PackageAudit.Package
