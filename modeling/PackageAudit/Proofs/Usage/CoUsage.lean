import PackageAudit.Proofs.Usage.Ledger

namespace PackageAudit.Usage

namespace Graph

def edges (g : Graph) (package : Text) : List Text := (g.get? package).getD []

/-- All companions that a package has, in the order in which they first stand beside it. -/
def companions (companies : List (List Text)) (package : Text) : List Text :=
  ((companies.filter (package ∈ ·)).flatMap (·.filter (· ≠ package))).eraseDups

theorem link_eq (g : Graph) (company : List Text) :
    g.link company = Keyed.amendEach some
      (fun p edges ↦ union edges (company.filter (· ≠ p))) g company := rfl

theorem keys_link (g : Graph) (company : List Text) (hg : g.keys.Nodup) :
    (g.link company).keys = (g.keys ++ company).eraseDups := by
  rw [link_eq, Keyed.keys_amendEach _ _ _ _ hg, List.filterMap_some]

theorem edges_amend (g : Graph) (p : Text) (change : List Text → List Text) (package : Text) :
    edges (g.amend p change) package =
      if package = p then change (g.edges package) else g.edges package := by
  unfold edges
  rw [Keyed.get?_amend]
  by_cases h : package = p
  · subst h; rw [if_pos rfl, if_pos rfl]; rfl
  · rw [if_neg h, if_neg h]

/-- A package that stands in its company more than once adds nothing the second time. -/
theorem edges_amendEach (company packages : List Text) (g : Graph) (package : Text) :
    edges (Keyed.amendEach some (fun p edges ↦ union edges (company.filter (· ≠ p))) g packages)
      package =
      if package ∈ packages then union (g.edges package) (company.filter (· ≠ package))
      else g.edges package := by
  induction packages generalizing g with
  | nil => rfl
  | cons p packages ih =>
    rw [Keyed.amendEach_cons]
    dsimp only
    rw [ih, edges_amend]
    by_cases hp : package = p
    · subst hp
      rw [if_pos rfl, if_pos List.mem_cons_self, Distinct.union_union_self, ite_self]
    · have hmem : package ∈ p :: packages ↔ package ∈ packages := by simp [hp]
      rw [if_neg hp, if_congr hmem rfl rfl]

theorem edges_link (g : Graph) (company : List Text) (package : Text) :
    (g.link company).edges package =
      if package ∈ company then union (g.edges package) (company.filter (· ≠ package))
      else g.edges package := edges_amendEach company company g package

theorem keys_foldl_link (companies : List (List Text)) :
    (companies.foldl link []).keys = companies.flatten.eraseDups := by
  induction companies using List.reverseRecOn with
  | nil => rfl
  | append_singleton companies company ih =>
    have hnodup : (companies.foldl link []).keys.Nodup := ih ▸ Distinct.nodup_eraseDups _
    rw [List.foldl_append, List.foldl_cons, List.foldl_nil, keys_link _ _ hnodup, ih,
      Distinct.eraseDups_eraseDups_append, List.flatten_append, List.flatten_singleton]

theorem companions_concat (companies : List (List Text)) (company : List Text) (package : Text) :
    companions (companies ++ [company]) package =
      if package ∈ company then
        union (companions companies package) (company.filter (· ≠ package))
      else companions companies package := by
  unfold companions
  rw [List.filter_append, List.filter_singleton]
  by_cases h : package ∈ company
  · rw [if_pos h, Distinct.union_eraseDups, decide_eq_true h, Bool.cond_true,
      List.flatMap_append, List.flatMap_singleton]
  · rw [if_neg h, decide_eq_false h, Bool.cond_false, List.append_nil]

theorem edges_foldl_link (companies : List (List Text)) (package : Text) :
    edges (companies.foldl link []) package = companions companies package := by
  induction companies using List.reverseRecOn with
  | nil => rfl
  | append_singleton companies company ih =>
    rw [List.foldl_append, List.foldl_cons, List.foldl_nil, edges_link, ih, companions_concat]

/-- The graph of a batch, without its loops. -/
theorem foldl_link (companies : List (List Text)) :
    companies.foldl link [] =
      companies.flatten.eraseDups.map fun p ↦ (p, companions companies p) := by
  have hkeys := keys_foldl_link companies
  have hnodup : (companies.foldl link []).keys.Nodup := hkeys ▸ Distinct.nodup_eraseDups _
  have hgraph := Keyed.eq_map_keys hnodup
  rw [hkeys] at hgraph
  refine hgraph.trans (List.map_congr_left fun p _ ↦ ?_)
  exact congrArg (Prod.mk p) (edges_foldl_link companies p)

theorem mem_companions {companies : List (List Text)} {a b : Text} :
    b ∈ companions companies a ↔ b ≠ a ∧ ∃ c ∈ companies, a ∈ c ∧ b ∈ c := by
  simp only [companions, List.mem_eraseDups, List.mem_flatMap, List.mem_filter,
    decide_eq_true_eq]
  constructor
  · rintro ⟨c, ⟨hc, ha⟩, hb, hne⟩
    exact ⟨hne, c, hc, ha, hb⟩
  · rintro ⟨hne, c, hc, ha, hb⟩
    exact ⟨c, ⟨hc, ha⟩, hb, hne⟩

theorem mem_companions_comm {companies : List (List Text)} {a b : Text} :
    b ∈ companions companies a ↔ a ∈ companions companies b := by
  rw [mem_companions, mem_companions, ne_comm]
  exact and_congr_right fun _ ↦ exists_congr fun _ ↦ and_congr_right fun _ ↦ and_comm

end Graph

variable (cap : Int) (declared : List Text)

/-- A file uses a package that is declared and for which it holds evidence. -/
def Uses (f : Text × Extraction) (package : Text) : Prop :=
  package ∈ declared ∧ package ∈ f.2.evidence.keys

instance (f : Text × Extraction) : DecidablePred (Uses declared f) :=
  fun _ ↦ inferInstanceAs (Decidable (_ ∧ _))

/-- The graph relates any two packages that one file of the batch uses together, and nothing else.
The companions of a package come file by file and, within a file, in the order of the evidence. -/
structure Graph.IsCoUsage (g : Graph) (files : List (Text × Extraction)) : Prop where
  mem_keys : ∀ a, a ∈ g.keys ↔ ∃ f ∈ files, Uses declared f a
  mem_edges : ∀ a b, b ∈ g.edges a ↔ a ≠ b ∧ ∃ f ∈ files, Uses declared f a ∧ Uses declared f b
  symmetric : ∀ a b, b ∈ g.edges a ↔ a ∈ g.edges b
  irreflexive : ∀ a, a ∉ g.edges a
  closed : ∀ a, g.edges a ⊆ g.keys
  nodup_keys : g.keys.Nodup
  nodup_edges : ∀ a, (g.edges a).Nodup
  edges_eq : ∀ a, g.edges a =
    ((files.filter (Uses declared · a)).flatMap fun f ↦
      f.2.evidence.keys.filter fun b ↦ b ∈ declared ∧ b ≠ a).eraseDups

theorem mem_company {f : Text × Extraction} {package : Text} :
    package ∈ company declared f ↔ Uses declared f package := by
  rw [company, List.mem_filter, List.contains_iff_mem]
  exact and_comm

theorem companions_company (files : List (Text × Extraction)) (a : Text) :
    Graph.companions (files.map (company declared)) a =
      ((files.filter (Uses declared · a)).flatMap fun f ↦
        f.2.evidence.keys.filter fun b ↦ b ∈ declared ∧ b ≠ a).eraseDups := by
  rw [Graph.companions, List.filter_map, List.flatMap_map]
  have hfiles : files.filter ((fun c ↦ decide (a ∈ c)) ∘ company declared) =
      files.filter (Uses declared · a) :=
    List.filter_congr fun _ _ ↦ decide_eq_decide.mpr (mem_company declared)
  have hkeys (f : Text × Extraction) : (company declared f).filter (· ≠ a) =
      f.2.evidence.keys.filter fun b ↦ b ∈ declared ∧ b ≠ a := by
    rw [company, List.filter_filter]
    apply List.filter_congr
    intro b _
    simp [Bool.and_comm]
  simp only [hfiles, hkeys]

theorem mem_keys_foldl_link (files : List (Text × Extraction)) (a : Text) :
    a ∈ Keyed.keys ((files.map (company declared)).foldl Graph.link []) ↔
      ∃ f ∈ files, Uses declared f a := by
  rw [Graph.keys_foldl_link, List.mem_eraseDups, List.mem_flatten]
  simp only [List.mem_map, exists_exists_and_eq_and, mem_company]

theorem mem_companions_company (files : List (Text × Extraction)) (a b : Text) :
    b ∈ Graph.companions (files.map (company declared)) a ↔
      a ≠ b ∧ ∃ f ∈ files, Uses declared f a ∧ Uses declared f b := by
  rw [Graph.mem_companions, ne_comm]
  simp only [List.mem_map, exists_exists_and_eq_and, mem_company]

/-- Whatever files have been added so far, the graph is the relation of co-usage in them. -/
theorem ofFiles_graph_isCoUsage (files : List (Text × Extraction)) :
    (Ledger.ofFiles cap declared files).graph.IsCoUsage declared files := by
  have hedges (a : Text) := Graph.edges_foldl_link (files.map (company declared)) a
  rw [ofFiles_graph]
  constructor
  case mem_keys => exact mem_keys_foldl_link declared files
  case mem_edges => intro a b; rw [hedges, mem_companions_company]
  case symmetric => intro a b; rw [hedges, hedges, Graph.mem_companions_comm]
  case irreflexive => intro a; rw [hedges, mem_companions_company]; exact fun h ↦ h.1 rfl
  case closed =>
    intro a b hb
    rw [hedges, mem_companions_company] at hb
    obtain ⟨_, f, hf, _, hfb⟩ := hb
    exact (mem_keys_foldl_link declared files b).mpr ⟨f, hf, hfb⟩
  case nodup_keys => rw [Graph.keys_foldl_link]; exact Distinct.nodup_eraseDups _
  case nodup_edges => intro a; rw [hedges]; exact Distinct.nodup_eraseDups _
  case edges_eq => intro a; rw [hedges, companions_company]

example : (Ledger.ofFiles 10 ["a", "b", "c"]
    [("x.js", { evidence := [("a", {}), ("b", {})] }),
     ("y.js", { evidence := [("c", {}), ("a", {})] })]).graph =
    ([("a", ["b", "c"]), ("b", ["a"]), ("c", ["a"])] : Graph) := by
  decide

end PackageAudit.Usage
