import PackageAudit.Proofs.Usage.Reading

namespace PackageAudit.Usage

open Syntax

variable (source : Text)

section Targets

/-- A target binds the names in it at any depth. -/
inductive Binds : Node → Text → Prop
  | name {n : Node} : n.kind = .identifier ∨ n.kind = .shorthandPattern → Binds n (n.text source)
  | part {n part : Node} {name : Text} :
      n.kind = .objectPattern ∨ n.kind = .other "array_pattern" ∨
        n.kind = .other "rest_pattern" →
      part ∈ n.namedChildren → Binds part name → Binds n name
  | value {n value : Node} {name : Text} : n.kind = .pairPattern → n.child? .value = some value →
      Binds value name → Binds n name
  | left {n left : Node} {name : Text} :
      n.kind = .objectAssignmentPattern ∨ n.kind = .assignmentPattern →
      n.child? .left = some left → Binds left name → Binds n name

inductive TracksMember : Node → Text → Prop
  | shorthand {part : Node} : part.kind = .shorthandPattern → TracksMember part (part.text source)
  | defaulted {part left : Node} : part.kind = .objectAssignmentPattern →
      part.child? .left = some left → TracksMember part (left.text source)
  | renamed {part value : Node} : part.kind = .pairPattern → part.child? .value = some value →
      value.kind = .identifier → TracksMember part (value.text source)
  | renamedDefaulted {part value left : Node} : part.kind = .pairPattern →
      part.child? .value = some value → value.kind = .assignmentPattern →
      value.child? .left = some left → left.kind = .identifier →
      TracksMember part (left.text source)

/-- The names of a target that the analysis tracks, where `member` is taken from the module. -/
inductive Tracks : Option Text → Node → Text → Prop
  | name {member : Option Text} {target : Node} : target.kind = .identifier →
      Tracks member target (target.text source)
  | member {target part : Node} {name : Text} : target.kind = .objectPattern →
      part ∈ target.namedChildren → TracksMember source part name → Tracks none target name

theorem all_bound (parts : List Names) : (Names.all parts).bound = parts.flatMap (·.bound) := by
  induction parts with
  | nil => rfl
  | cons part parts ih =>
    rw [List.flatMap_cons, ← ih]
    rfl

theorem mem_ofMember_bound_iff {part : Node} {name : Text} :
    name ∈ (Names.ofMember source part).bound ↔ TracksMember source part name := by
  constructor
  · intro h
    unfold Names.ofMember at h
    split at h
    · rename_i hk
      rw [List.mem_singleton] at h
      exact h ▸ .shorthand hk
    · rename_i hk
      split at h
      · rename_i left hl
        rw [List.mem_singleton] at h
        exact h ▸ .defaulted hk hl
      · cases h
    · rename_i hk
      simp only [Option.mem_toList, Option.map_eq_some_iff,
        Option.filter_eq_some_iff, Option.bind_eq_some_iff, decide_eq_true_eq] at h
      obtain ⟨n, ⟨⟨value, hv, hn⟩, hid⟩, rfl⟩ := h
      split at hn
      · rename_i ha
        exact .renamedDefaulted hk hv ha hn hid
      · cases hn
        exact .renamed hk hv hid
    · cases h
  · intro h
    cases h with
    | shorthand hk => simp [Names.ofMember, hk]
    | defaulted hk hl => simp [Names.ofMember, hk, hl]
    | renamed hk hv hid => simp [Names.ofMember, hk, hv, hid]
    | renamedDefaulted hk hv ha hl hid => simp [Names.ofMember, hk, hv, ha, hl, hid]

theorem mem_ofTarget_bound_iff {member : Option Text} {target : Node} {name : Text} :
    name ∈ (Names.ofTarget source member target).bound ↔ Tracks source member target name := by
  have hall : name ∈ (Names.all (target.namedChildren.map (Names.ofMember source))).bound ↔
      ∃ part ∈ target.namedChildren, TracksMember source part name := by
    rw [all_bound, List.flatMap_map, List.mem_flatMap]
    exact exists_congr fun part ↦ and_congr_right fun _ ↦ mem_ofMember_bound_iff source
  constructor
  · intro h
    unfold Names.ofTarget Names.append at h
    dsimp only at h
    rw [List.nil_append] at h
    split at h
    · rename_i hk
      have hname : name = target.text source := List.mem_singleton.mp h
      exact hname ▸ .name hk
    · rename_i hk
      obtain ⟨part, hp, hn⟩ := hall.mp h
      exact .member hk hp hn
    · cases h
  · intro h
    cases h with
    | name hk => simp [Names.ofTarget, Names.append, Names.bind, hk]
    | member hk hp hn =>
      have hmem := hall.mpr ⟨_, hp, hn⟩
      simpa [Names.ofTarget, Names.append, hk] using hmem

end Targets

section Initializers

/-- What a call gives, also when it is awaited or enclosed or when one property of it is taken. -/
inductive Gives (call : Place) : Place → Option Text → Prop
  | call : Gives call call none
  | wrapped {p above : Place} {member : Option Text} : Gives call p member →
      p.parent? = some above →
      above.node.kind = .awaitExpression ∨ above.node.kind = .parenthesizedExpression →
      Gives call above member
  | property {p access : Place} {property : Node} : Gives call p none →
      p.parent? = some access → access.node.kind = .memberExpression →
      p.isFieldOfParent .object = true → access.node.child? .property = some property →
      Gives call access (some (property.text source))

/-- The analysis tracks a name at a call whose value reaches the declarator of the name. -/
inductive IsTracked (site : Place) (name : Text) : Prop
  | intro {value declarator : Place} {member : Option Text} {target : Node} :
      Reaches source site value member → IsValueOf value declarator →
      declarator.node.child? .name = some target → Tracks source member target name →
      IsTracked site name

theorem mem_bindings_ofCall?_iff {p : Place} {i : Import} (h : ofCall? source p = some i)
    (name : Text) : name ∈ i.bindings ↔ IsTracked source p name := by
  unfold ofCall? at h
  obtain ⟨specifier, _, h⟩ := Option.bind_eq_some_iff.mp h
  constructor
  · intro hname
    split at h
    · rename_i declarator names hinit
      cases h
      obtain ⟨value, member, hreach, hvalue, rfl⟩ := (initialized?_eq_some_iff source).mp hinit
      unfold targetNames at hname
      cases htarget : declarator.node.child? .name with
      | none =>
        rw [htarget] at hname
        cases hname
      | some target =>
        rw [htarget] at hname
        exact .intro hreach hvalue htarget ((mem_ofTarget_bound_iff source).mp hname)
    · cases h
      cases hname
  · rintro ⟨hreach, hvalue, htarget, htracks⟩
    have hinit := (initialized?_eq_some_iff source).mpr ⟨_, _, hreach, hvalue, rfl⟩
    rw [hinit] at h
    cases h
    simpa [targetNames, htarget] using (mem_ofTarget_bound_iff source).mpr htracks

end Initializers

variable (declared : List Text)

/-- A call of a loader gives a declarator its value, and the declarator's target binds the name. The
module is no declared package, and no other import binds the name. -/
structure BindsLocally (root : Node) (site : Place) (name : Text) : Prop where
  kind : site.node.kind = .callExpression
  module : ∃ specifier, NamesModule source site specifier ∧
    ∀ package ∈ declared, Package.ofSpecifier? specifier ≠ some package
  target : ∃ value declarator member target, Gives source site value member ∧
    IsValueOf value declarator ∧ declarator.node.child? .name = some target ∧
    Binds source target name
  alone : ∃ before after, allPlaces root = before ++ site :: after ∧
    ∀ p ∈ before ++ after, ∀ i ∈ import? source p, name ∉ i.bindings

section Calls

variable {source : Text} {declared : List Text} {root : Node} {site : Place} {name : Text}

theorem BindsLocally.exists_import (h : BindsLocally source declared root site name) :
    ∃ i, import? source site = some i ∧ i.package? declared = none ∧
      (name ∈ i.bindings ↔ IsTracked source site name) := by
  obtain ⟨specifier, hnames, hforeign⟩ := h.module
  have hspecifier := (import?_specifier_eq_some_iff source).mpr hnames
  obtain ⟨i, hi, rfl⟩ := Option.map_eq_some_iff.mp hspecifier
  have hcall : ofCall? source site = some i := by simpa only [import?, h.kind] using hi
  have hpackage : i.package? declared = none := by
    rw [Import.package?, Option.filter_eq_none_iff]
    intro package hp hd
    exact hforeign package (by simpa using hd) hp
  exact ⟨i, hi, hpackage, mem_bindings_ofCall?_iff source hcall name⟩

/-- The other imports do not bind the name, so that the table of bindings has it from the site. -/
theorem BindsLocally.binding?_eq (h : BindsLocally source declared root site name) :
    (IsTracked source site name → binding? declared (allImports source root) name = some none) ∧
    (¬ IsTracked source site name → binding? declared (allImports source root) name = none) := by
  obtain ⟨i, hi, hpackage, hbound⟩ := h.exists_import
  obtain ⟨before, after, hplaces, hothers⟩ := h.alone
  have hnone (places : List Place) (hsub : ∀ p ∈ places, p ∈ before ++ after) :
      (places.filterMap (import? source)).filter (·.bindings.contains name) = [] := by
    rw [List.filter_eq_nil_iff]
    intro j hj hname
    obtain ⟨p, hp, hpj⟩ := List.mem_filterMap.mp hj
    exact hothers p (hsub p hp) j hpj (by simpa using hname)
  have hfilter : (allImports source root).filter (·.bindings.contains name) =
      [i].filter (·.bindings.contains name) := by
    rw [allImports, hplaces, List.filterMap_append, List.filterMap_cons_some hi,
      List.filter_append, hnone before fun p hp ↦ List.mem_append_left _ hp, List.nil_append,
      ← List.singleton_append, List.filter_append,
      hnone after fun p hp ↦ List.mem_append_right _ hp, List.append_nil]
  rw [binding?, hfilter, List.filter_singleton]
  constructor
  · intro ht
    simp [hbound.mpr ht, hpackage]
  · intro ht
    have hn : name ∉ i.bindings := fun hn ↦ ht (hbound.mp hn)
    simp [hn]

/-- A call from a name that stands for something else than a declared package belongs to no package
just if the analysis tracks the name, or if the name resembles no package. -/
theorem callPackage?_eq_none_iff_isTracked (h : BindsLocally source declared root site name)
    {call : Node} (hroot : HasRoot source call name) :
    callPackage? source declared (findings source declared root).bindings call = none ↔
      IsTracked source site name ∨ Package.ofIdentifier? declared name = none := by
  have hname := (rootName?_eq_some_iff source).mpr hroot
  have hbinding := findings_bindings source declared root name
  simp only [callPackage?, Option.bind_eq_bind, hname, Option.bind_some, hbinding]
  by_cases ht : IsTracked source site name
  · rw [h.binding?_eq.1 ht]
    simp [ht]
  · rw [h.binding?_eq.2 ht]
    simp [ht]

end Calls

section Sample

def sampleSource (target : Text) : Text :=
  Text.ofString "const " ++ target ++ Text.ofString " = require('./m');_.map();"

def sampleLoad (place : Nat) : Node := .ofChildren .callExpression
  [(Node.leaf .identifier true place (place + 7)).underField .function,
   (Node.ofChildren (.other "arguments")
     [.token "(" (place + 7) (place + 8), .leaf .string true (place + 8) (place + 13),
      .token ")" (place + 13) (place + 14)]).underField .arguments]

def sampleDeclarator (target : Node) : Node := .ofChildren .variableDeclarator
  [target.underField .name, .token "=" (target.stop + 1) (target.stop + 2),
   (sampleLoad (target.stop + 3)).underField .value]

def sampleDeclaration (target : Node) : Node := .ofChildren (.other "lexical_declaration")
  [.token "const" 0 5, sampleDeclarator target, .token ";" (target.stop + 17) (target.stop + 18)]

def sampleCall (place : Nat) : Node := .ofChildren .callExpression
  [(Node.ofChildren .memberExpression
     [(Node.leaf .identifier true place (place + 1)).underField .object,
      .token "." (place + 1) (place + 2),
      (Node.leaf (.other "property_identifier") true (place + 2) (place + 5)).underField
        .property]).underField .function,
   (Node.ofChildren (.other "arguments")
     [.token "(" (place + 5) (place + 6), .token ")" (place + 6) (place + 7)]).underField
     .arguments]

def sampleTree (target : Node) : Node := .ofChildren (.other "program")
  [sampleDeclaration target,
   .ofChildren (.other "expression_statement")
     [sampleCall (target.stop + 18), .token ";" (target.stop + 25) (target.stop + 26)]]

def sampleSite (target : Node) : Place where
  node := (sampleLoad (target.stop + 3)).underField .value
  above := [(sampleDeclarator target, 2), (sampleDeclaration target, 1), (sampleTree target, 0)]

def flatTarget : Node := .ofChildren .objectPattern
  [.token "\x7b" 6 7, .leaf .shorthandPattern true 8 9, .token "\x7d" 10 11]

def nestedTarget : Node := .ofChildren .objectPattern
  [.token "\x7b" 6 7,
   .ofChildren .pairPattern
     [(Node.leaf (.other "property_identifier") true 8 9).underField .key, .token ":" 9 10,
      (Node.ofChildren .objectPattern
        [.token "\x7b" 11 12, .leaf .shorthandPattern true 13 14, .token "\x7d" 15 16]).underField
        .value],
   .token "\x7d" 17 18]

theorem flatTarget_bindsLocally :
    BindsLocally (sampleSource "{ _ }") ["lodash"] (sampleTree flatTarget)
      (sampleSite flatTarget) "_" where
  kind := rfl
  module := ⟨"./m", .call rfl rfl (by decide) rfl rfl (.string rfl), by decide⟩
  target := ⟨_, _, _, _, .call, ⟨rfl, rfl, rfl⟩, rfl, .part (.inl rfl) (.head _) (.name (.inr rfl))⟩
  alone := ⟨(allPlaces (sampleTree flatTarget)).take 9, (allPlaces (sampleTree flatTarget)).drop 10,
    rfl, by decide⟩

theorem nestedTarget_bindsLocally :
    BindsLocally (sampleSource "{ a: { _ } }") ["lodash"] (sampleTree nestedTarget)
      (sampleSite nestedTarget) "_" where
  kind := rfl
  module := ⟨"./m", .call rfl rfl (by decide) rfl rfl (.string rfl), by decide⟩
  target := ⟨_, _, _, _, .call, ⟨rfl, rfl, rfl⟩, rfl,
    .part (.inl rfl) (.head _) (.value rfl rfl (.part (.inl rfl) (.head _) (.name (.inr rfl))))⟩
  alone := ⟨(allPlaces (sampleTree nestedTarget)).take 15,
    (allPlaces (sampleTree nestedTarget)).drop 16, rfl, by decide⟩

theorem callPackage?_flatTarget :
    let source := sampleSource "{ _ }"
    let root := sampleTree flatTarget
    BindsLocally source ["lodash"] root (sampleSite flatTarget) "_" ∧
    HasRoot source (sampleCall 29) "_" ∧ IsTracked source (sampleSite flatTarget) "_" ∧
    callPackage? source ["lodash"] (findings source ["lodash"] root).bindings (sampleCall 29) =
      none := by
  intro source root
  have hroot : HasRoot source (sampleCall 29) "_" :=
    ⟨_, _, _, rfl, rfl, .identifier rfl, rfl, by decide⟩
  have ht : IsTracked source (sampleSite flatTarget) "_" :=
    .intro .call ⟨rfl, rfl, rfl⟩ rfl (.member rfl (.head _) (.shorthand rfl))
  exact ⟨flatTarget_bindsLocally, hroot, ht,
    (callPackage?_eq_none_iff_isTracked flatTarget_bindsLocally hroot).mpr (.inl ht)⟩

/-- The name is bound to a local module, but one pattern deeper than the analysis looks. -/
theorem callPackage?_nestedTarget :
    let source := sampleSource "{ a: { _ } }"
    let root := sampleTree nestedTarget
    BindsLocally source ["lodash"] root (sampleSite nestedTarget) "_" ∧
    sampleCall 36 ∈ allMemberCalls root ∧ HasRoot source (sampleCall 36) "_" ∧
    callPackage? source ["lodash"] (findings source ["lodash"] root).bindings (sampleCall 36) =
      some "lodash" :=
  ⟨nestedTarget_bindsLocally, .head _, ⟨_, _, _, rfl, rfl, .identifier rfl, rfl, by decide⟩,
    by decide⟩

end Sample

end PackageAudit.Usage
