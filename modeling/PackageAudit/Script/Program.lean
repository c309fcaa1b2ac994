import PackageAudit.Script.Statement

namespace PackageAudit.Script

open Syntax Reader

/-- The reader of a phrase, given the readers of the phrases inside. -/
def readPhrase (k : Kit) : Phrase → Reader Node
  | .statement => statement k
  | .block => block k
  | .expression c => expression k c
  | .operation c level => operation k c level
  | .operand c => operand k c
  | .construction c =>
    construction k c (constructionTarget k c (primary k c))
  | .pattern => pattern k
  | .type ends => TypeExpr.type k ends
  | .element => Element.element k (sequence k .enclosed)

/-- The reader of a phrase whose parts nest no deeper than `depth`. -/
def reader (d : Dialect) (bound : Nat) : (depth : Nat) → Phrase → Reader Node
  | 0, _ => failure
  | depth + 1, p => trying p (readPhrase ⟨d, bound, reader d bound depth⟩ p)

def statements (d : Dialect) (bound : Nat) : Reader (List Node) :=
  many (behindOperandGap (reader d bound (16 * bound) .statement)) bound

def interpreterLine : Reader (List Node) := do
  let comments ← operandGap
  require ("#!".toList.isPrefixOf (← rest))
  let length := ((← rest).takeWhile fun c ↦ c != '\n' && c != '\x00').length
  return comments ++ [← leaf (.other "hash_bang_line") true length]

/-- A whole source from its start on, with how far its statements could be read. -/
def survey (d : Dialect) (source : List Char) : Option Node × Reach :=
  let (answer, notes) := (whole.run ⟨source, 0, []⟩).run ⟨⟨0, [[]], false⟩, {}⟩
  (answer.map (·.1), notes.reach)
where
  whole : Reader Node := do
    let line ← option interpreterLine
    let children ← statements d (source.length + 1)
    let comments ← operandGap
    require (← rest).isEmpty
    return { Node.ofChildren (.other "program") (line ++ children ++ comments) with
      stop := ← place }

def program? (d : Dialect) (source : List Char) : Option Node := (survey d source).1

end PackageAudit.Script
