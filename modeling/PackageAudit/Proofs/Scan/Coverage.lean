import PackageAudit.Proofs.Scan.Layouts
import PackageAudit.Proofs.Scan.Report
import PackageAudit.Proofs.Syntax.Spans
import PackageAudit.Usage.Extraction

namespace PackageAudit.Scan

open Syntax

/-- Somewhere in the text there is an import of the package in one of the layouts. -/
def HasLayout (content package : Text) : Prop :=
  ∃ above here below m, content = above ++ (here ++ below) ∧ Layout here m ∧
    Package.ofSpecifier? m = some package

theorem ReadsImport.hasLayout {content package : Text} (h : ReadsImport content package) :
    HasLayout content package := by
  obtain ⟨phrase, hphrase, f, hf, hpackage⟩ := h
  obtain ⟨above, hsplit, hlayout⟩ := layout_of_mem_imports hphrase hf
  exact ⟨above, f.matched, f.rest, f.captured, hsplit, hlayout, hpackage⟩

/-- The scan lists the file under the package, which is then not unused. -/
structure Lists (declared : List Text) (files : List Source) (name package : Text) : Prop where
  listed : ∃ u, (scan declared files).packages.get? package = some u ∧ name ∈ u.files
  used : package ∉ (scan declared files).unused

section Scan

variable {declared : List Text} {files : List Source} {package name : Text}

theorem lists_iff (h : package ∈ declared) :
    Lists declared files name package ↔
      ∃ s ∈ files, s.name = name ∧ ReadsImport s.content package := by
  rw [← exists_mem_mentionsOf_iff]
  have hget := get?_scan files h
  constructor
  · rintro ⟨⟨u, hu, hname⟩, -⟩
    rw [hget] at hu
    cases hu
    exact List.mem_map.mp (List.mem_eraseDups.mp hname)
  · rintro ⟨m, hm, hname⟩
    refine ⟨⟨_, hget, List.mem_eraseDups.mpr (List.mem_map.mpr ⟨m, hm, hname⟩)⟩, ?_⟩
    rw [mem_unused_iff files h]
    exact List.ne_nil_of_mem hm

end Scan

section Tree

variable (source : Text)

/-- An import statement with a string, or a call of `require` with a string, and the specifier that
the string gives. -/
inductive ImportsModule : Place → Text → Prop
  | importStatement {p : Place} {module : Node} :
      p.node.kind = .importStatement → Usage.importedModule? p.node = some module →
      module.kind = .string → ImportsModule p ((module.text source).drop 1).dropLast
  | require {p : Place} {callee arguments argument : Node} :
      p.node.kind = .callExpression → p.node.child? .function = some callee →
      callee.kind = .identifier → callee.text source = "require" →
      p.node.child? .arguments = some arguments →
      arguments.namedChildren.head? = some argument → argument.kind = .string →
      ImportsModule p ((argument.text source).drop 1).dropLast

/-- The text of the node ends in a plain import, with no mark open in front of it. -/
def EndsPlainly (n : Node) (m : Text) : Prop :=
  ∃ front here, n.text source = front ++ here ∧ PlainImport here m ∧
    ¬ EndsOpen (source.take n.start ++ front)

variable {source : Text}

theorem EndsPlainly.readsImport {n : Node} {m package : Text} (h : EndsPlainly source n m)
    (hspan : n.start ≤ n.stop) (hpackage : Package.ofSpecifier? m = some package) :
    ReadsImport source package := by
  obtain ⟨front, here, htext, hplain, hopen⟩ := h
  have hsource : source.take n.start ++ front ++ (here ++ source.drop n.stop) = source := by
    have hsplit := split_at_text source hspan
    rw [htext] at hsplit
    simpa using hsplit
  obtain ⟨phrase, hphrase, f, hf, rfl⟩ := exists_import_of_plain (source.drop n.stop) hplain hopen
  rw [hsource] at hf
  exact ⟨phrase, hphrase, f, hf, hpackage⟩

structure ImportsDeclared (source : Text) (declared : List Text) (root : Node) (p : Place)
    (specifier package : Text) : Prop where
  place : p ∈ places root
  module : ImportsModule source p specifier
  names : Package.ofSpecifier? specifier = some package
  declared : package ∈ declared

/-- The scan misses no import in the tree of a file. -/
def Covers (declared : List Text) (files : List Source) (s : Source) (root : Node) : Prop :=
  ∀ ⦃p specifier package⦄, ImportsDeclared s.content declared root p specifier package →
    Lists declared files s.name package

/-- The scan covers a tree just if it reads, in a file of that name, an import of every package that
the tree imports. It lists each import that ends plainly, and covers no tree that imports a package
without a layout of such an import in a file of that name. -/
theorem covers_iff_reads {declared : List Text} {files : List Source} {s : Source} {root : Node}
    (hs : s ∈ files) (hspans : root.HasSpans s.content.length) :
    (Covers declared files s root ↔
      ∀ ⦃p specifier package⦄, ImportsDeclared s.content declared root p specifier package →
        ∃ s' ∈ files, s'.name = s.name ∧ ReadsImport s'.content package) ∧
    (∀ ⦃p specifier package⦄, ImportsDeclared s.content declared root p specifier package →
      EndsPlainly s.content p.node specifier → Lists declared files s.name package) ∧
    (Covers declared files s root →
      ∀ ⦃p specifier package⦄, ImportsDeclared s.content declared root p specifier package →
        ∃ s' ∈ files, s'.name = s.name ∧ HasLayout s'.content package) := by
  have hlists : ∀ {package}, package ∈ declared → (Lists declared files s.name package ↔
      ∃ s' ∈ files, s'.name = s.name ∧ ReadsImport s'.content package) := lists_iff
  refine ⟨⟨?_, ?_⟩, ?_, ?_⟩
  · intro hcovers p specifier package himport
    exact (hlists himport.declared).mp (hcovers himport)
  · intro hreads p specifier package himport
    exact (hlists himport.declared).mpr (hreads himport)
  · intro p specifier package himport hplain
    have hspan := hspans.start_le_stop p himport.place
    exact (hlists himport.declared).mpr ⟨s, hs, rfl, hplain.readsImport hspan himport.names⟩
  · intro hcovers p specifier package himport
    obtain ⟨s', hs', hname, hreads⟩ := (hlists himport.declared).mp (hcovers himport)
    exact ⟨s', hs', hname, hreads.hasLayout⟩

end Tree

section Sample

def plainSource : Source := ⟨"a.js", "let a;\nimport b from 'm/c';"⟩

def plainStatement : Node := .ofChildren .importStatement
  [.token "import" 7 13,
   .ofChildren .importClause [.leaf .identifier true 14 15],
   .token "from" 16 20,
   (Node.leaf .string true 21 26).underField .source,
   .token ";" 26 27]

def plainTree : Node := .ofChildren (.other "program")
  [.ofChildren (.other "lexical_declaration")
     [.token "let" 0 3,
      .ofChildren .variableDeclarator [(Node.leaf .identifier true 4 5).underField .name],
      .token ";" 5 6],
   plainStatement]

theorem covers_plainTree :
    let p : Place := ⟨plainStatement, [(plainTree, 1)]⟩
    plainTree.HasSpans plainSource.content.length ∧
    ImportsDeclared plainSource.content ["m"] plainTree p "m/c" "m" ∧
    EndsPlainly plainSource.content p.node "m/c" ∧
    Lists ["m"] [plainSource] "a.js" "m" := by
  intro p
  have hspans : plainTree.HasSpans plainSource.content.length := by decide
  have hplace : (places plainTree)[6]? = some p := rfl
  have hmodule : Usage.importedModule? p.node =
      some ((Node.leaf .string true 21 26).underField .source) := rfl
  have himport : ImportsDeclared plainSource.content ["m"] plainTree p "m/c" "m" :=
    ⟨List.mem_of_getElem? hplace, .importStatement rfl hmodule rfl, by decide, by decide⟩
  have hplain : EndsPlainly plainSource.content p.node "m/c" := by
    refine ⟨[], "import b from 'm/c';", by decide, ?_, IsUnquoted.not_endsOpen (by decide)⟩
    have hmark : isQuote (.char '\x27') = true := rfl
    have hname : IsUnquoted "m/c" := by decide
    have hquoted : Quoted "'m/c'" "m/c" := .intro hmark hmark hname (by decide)
    have hgap : IsBlank " " := by decide
    have hclause : IsUnquoted "b" := by decide
    exact .importFrom ";" hgap (by decide) hclause (by decide) (by decide) (by decide) hgap (by decide)
      hgap (by decide) hquoted
  have hs : plainSource ∈ [plainSource] := List.mem_cons_self
  exact ⟨hspans, himport, hplain, (covers_iff_reads hs hspans).2.1 himport hplain⟩

def brokenSource : Source := ⟨"a.js", "import \x7b\n  merge\n\x7d from 'lodash';"⟩

def brokenStatement : Node := .ofChildren .importStatement
  [.token "import" 0 6,
   .ofChildren .importClause
     [.ofChildren .namedImports
        [.token "\x7b" 7 8,
         .ofChildren .importSpecifier [(Node.leaf .identifier true 11 16).underField .name],
         .token "\x7d" 17 18]],
   .token "from" 19 23,
   (Node.leaf .string true 24 32).underField .source,
   .token ";" 32 33]

def brokenTree : Node := .ofChildren (.other "program") [brokenStatement]

theorem not_covers_brokenTree :
    brokenTree.HasSpans brokenSource.content.length ∧
    ¬ Covers ["lodash"] [brokenSource] brokenSource brokenTree := by
  refine ⟨by decide, ?_⟩
  intro hcovers
  let p : Place := ⟨brokenStatement, [(brokenTree, 0)]⟩
  have hplace : (places brokenTree)[1]? = some p := rfl
  have hmodule : Usage.importedModule? p.node =
      some ((Node.leaf .string true 24 32).underField .source) := rfl
  have himport : ImportsDeclared brokenSource.content ["lodash"] brokenTree p "lodash" "lodash" :=
    ⟨List.mem_of_getElem? hplace, .importStatement rfl hmodule rfl, by decide, by decide⟩
  exact (hcovers himport).used (by decide)

end Sample

end PackageAudit.Scan
