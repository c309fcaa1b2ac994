import PackageAudit.File.Source
import PackageAudit.Script.Repair.Contest
import PackageAudit.Syntax.Fault
import PackageAudit.Text.Blank
import PackageAudit.Text.Quoted

namespace PackageAudit.Script

open Syntax

inductive Reason where
  | unencodable
  | missing (token : Text)
  | unexpected (text : Text)
deriving DecidableEq

structure Rejection where
  file : Text
  dialect : Dialect
  reason : Reason
  line : Option Nat
deriving DecidableEq

def lineAt (source : Text) (place : Nat) : Nat := (source.take place).count (.char '\n') + 1

def Reason.message (d : Dialect) : Reason → Text
  | .unencodable => "Cannot encode source as UTF-8: surrogates not allowed"
  | .missing token => "Missing '" ++ token ++ "'" ++ grammarNote
  | .unexpected text =>
    "Unexpected syntax near " ++ Text.quoted (Text.preview 40 text) ++ grammarNote
where
  grammarNote : Text := " (" ++ Text.ofString d.grammar ++ " grammar)"

def Rejection.message (r : Rejection) : Text := r.reason.message r.dialect

def Rejection.describe (r : Rejection) : Text :=
  let line : Text := match r.line with
    | some n => ":" ++ Text.ofNat n
    | none => []
  r.file ++ line ++ ": " ++ r.message

def tokenText (n : Node) : Text :=
  match n.kind with
  | .token t => Text.ofString t
  | .identifier => "identifier"
  | .other name => Text.ofString name
  | _ => []

def tree (d : Dialect) (source : List Char) : Node :=
  (program? d source).getD (.ofChildren (.other "program") (Repair.faults d source))

/-- The syntax tree of a source file without faults. -/
def parse (s : Source) : Except Rejection Node :=
  match Text.chars? s.content with
  | none => .error ⟨s.name, s.dialect, .unencodable, none⟩
  | some source =>
    let root := tree s.dialect source
    match firstFault? root with
    | none => .ok root
    | some n =>
      let reason :=
        if n.missing then .missing (tokenText n) else .unexpected (n.text s.content)
      .error ⟨s.name, s.dialect, reason, some (lineAt s.content n.start)⟩

end PackageAudit.Script
