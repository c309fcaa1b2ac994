import PackageAudit.Script.Operation

namespace PackageAudit.Script

open Syntax Reader

def exportedName (k : Kit) : Reader Node := string <|> do
  let word ← peekWord
  require (word = "default" || isName k.dialect word)
  leaf .identifier true word.length

def fromClause : Reader (List Node) := together do
  let word ← nextKeyword "from"
  return word ++ (← underField .source (behindOperandGap string))

def typeWord (k : Kit) : Reader (List Node) := do
  require k.dialect.isTyped
  let word ← keyword "type" <|> keyword "typeof"
  return word ++ (← gap)

def specifier (kind : Kind) (before : List Node) (plain renamed alias_ : Reader Node) :
    Reader Node :=
  phrase kind (complete withAlias <|> complete (return before ++ [(← plain).underField .name]))
where
  withAlias : Reader (List Node) := do
    let n := (← renamed).underField .name
    let as_ ← nextKeyword "as"
    return before ++ n :: as_ ++ (← underField .alias (behindOperandGap alias_))
  /-- The words `type` and `as` may be names, so a specifier must reach up to the next one. -/
  complete (r : Reader (List Node)) : Reader (List Node) := do
    let ns ← r
    require (["," , "\x7d"].contains (← peekNext))
    return ns

def importSpecifier (k : Kit) : Reader Node :=
  withType <|> specifier .importSpecifier [] (name k) (exportedName k) (name k)
where
  withType : Reader Node := do
    specifier .importSpecifier (← typeWord k) (name k) (exportedName k) (name k)

def exportSpecifier (k : Kit) : Reader Node :=
  withType <|> specifier .exportSpecifier [] (exportedName k) (exportedName k) (exportedName k)
where
  withType : Reader Node := do
    specifier .exportSpecifier (← typeWord k) (exportedName k) (exportedName k) (exportedName k)

def braced (k : Kit) (kind : Kind) (item : Reader Node) : Reader Node :=
  phrase kind do
    let open_ ← token "\x7b"
    let items ← listed k (behindOperandGap item)
    return open_ ++ items ++ (← nextToken "\x7d")

def namespaceImport (k : Kit) : Reader Node :=
  phrase .namespaceImport do
    let star ← token "*"
    let as_ ← nextKeyword "as"
    return star ++ as_ ++ (← behindOperandGap (name k))

def importClause (k : Kit) : Reader Node :=
  phrase .importClause do
    (return [← group]) <|> do
      let n ← name k
      return n :: (← option do
        let comma ← nextToken ","
        return comma ++ (← behindOperandGap group))
where
  group : Reader Node := namespaceImport k <|> braced k .namedImports (importSpecifier k)

def importRequireClause (k : Kit) : Reader Node :=
  phrase .importRequireClause do
    require k.dialect.isTyped
    let n ← name k
    let equals ← nextToken "="
    let word ← nextKeyword "require"
    let open_ ← nextToken "("
    let source ← underField .source (behindOperandGap string)
    return n :: equals ++ word ++ open_ ++ source ++ (← nextToken ")")

def importAttributes (k : Kit) : Reader (List Node) := option do
  let word ← nextKeyword "with"
  return word ++ (← behindOperandGap (object k))

def importStatement (k : Kit) : Reader Node :=
  phrase .importStatement do
    let word ← keyword "import"
    let body ← behind (source <|> (return (← typeWord k) ++ (← clause)) <|> clause)
    let attributes ← importAttributes k
    return word ++ body ++ attributes ++ (← terminator k ⟨false, false⟩)
where
  source : Reader (List Node) := underField .source (return [← string])
  clause : Reader (List Node) :=
    (return [← importRequireClause k]) <|> (do
      let bound ← importClause k
      return bound :: (← fromClause)) <|> source

def importAlias (k : Kit) : Reader Node :=
  phrase (.other "import_alias") do
    require k.dialect.isTyped
    let word ← keyword "import"
    let n ← behindOperandGap (name k)
    let equals ← nextToken "="
    let target ← behindOperandGap (decoratorTarget k)
    return word ++ n ++ equals ++ target ++ (← terminator k ⟨false, false⟩)

def exportStatement (k : Kit) (applied : List Node) (declaration : Reader Node) : Reader Node :=
  phrase .exportStatement do
    let word ← keyword "export"
    require !(applied.isEmpty && (← endsHere k ⟨true, false⟩))
    return applied ++ word ++ (← behind (body applied.isEmpty))
where
  body (plain : Bool) : Reader (List Node) :=
    (do require plain; linked) <|> (return [← declaration]) <|> fallback
  linked : Reader (List Node) := do
    let what ← all <|> names <|> typedNames <|> special
    return what ++ (← terminator k ⟨false, false⟩)
  all : Reader (List Node) := do
    let star ← token "*"
    let renamed ← option do
      let as_ ← nextKeyword "as"
      return as_ ++ (← behindOperandGap (exportedName k))
    let what ←
      if renamed.isEmpty then pure star
      else pure [← join (.other "namespace_export") (star ++ renamed)]
    return what ++ (← fromClause)
  names : Reader (List Node) := do
    let clause ← braced k .exportClause (exportSpecifier k)
    return clause :: (← option fromClause)
  typedNames : Reader (List Node) := do
    require k.dialect.isTyped
    let word ← keyword "type"
    return word ++ (← behind names)
  special : Reader (List Node) := do
    require k.dialect.isTyped
    assigned <|> namespace_
  assigned : Reader (List Node) := do
    let equals ← token "="
    return equals ++ (← k.next (.expression .statement))
  namespace_ : Reader (List Node) := do
    let as_ ← keyword "as"
    let word ← nextKeyword "namespace"
    return as_ ++ word ++ (← behindOperandGap (name k))
  fallback : Reader (List Node) := do
    let word ← keyword "default"
    (return word ++ (← behindOperandGap declaration)) <|> do
      let value ← underField .value (k.next (.expression .statement))
      return word ++ value ++ (← terminator k ⟨true, false⟩)

end PackageAudit.Script
