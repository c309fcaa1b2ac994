import PackageAudit.Proofs.Scan.Layouts
import PackageAudit.Proofs.Scan.Report
import PackageAudit.Proofs.Text.Blank

namespace PackageAudit.Scan

open Text (Fits Found Part matchPhrase)

section Names

variable {s t : Text}

def IsName (t : Text) : Prop := t ≠ [] ∧ ∀ c ∈ t, c.isWord = true

instance : DecidablePred IsName := fun t ↦
  inferInstanceAs (Decidable (t ≠ [] ∧ ∀ c ∈ t, c.isWord = true))

/-- One word, or several with white space between them. -/
structure IsItem (t : Text) : Prop where
  ne_nil : t ≠ []
  isWord_or_isSpace : ∀ c ∈ t, c.isWord = true ∨ c.isSpace = true
  isWord_head : ∀ c ∈ t.head?, c.isWord = true
  isWord_last : ∀ c ∈ t.getLast?, c.isWord = true

/-- Two words of the text have white space between them and nothing else. -/
def HasNeighbours (t : Text) : Prop :=
  ∃ c g d, c.isWord = true ∧ IsBlank g ∧ g ≠ [] ∧ d.isWord = true ∧ c :: (g ++ [d]) <:+: t

theorem IsBlank.notMem_of_isWord {g : Text} {c : CodePoint} (hg : IsBlank g) (hc : c.isWord = true) :
    c ∉ g := by
  intro hmem
  rw [CodePoint.isWord_eq_false_of_isSpace (hg c hmem)] at hc
  cases hc

theorem HasNeighbours.mono (h : HasNeighbours s) (hst : s <:+: t) : HasNeighbours t := by
  obtain ⟨c, g, d, hc, hg, hne, hd, hstretch⟩ := h
  exact ⟨c, g, d, hc, hg, hne, hd, hstretch.trans hst⟩

theorem not_hasNeighbours_of_forall_isWord (h : ∀ c ∈ t, c.isWord = true) : ¬ HasNeighbours t := by
  rintro ⟨c, g, d, -, hg, hne, -, hstretch⟩
  obtain ⟨e, g, rfl⟩ := List.exists_cons_of_ne_nil hne
  exact hg.notMem_of_isWord (h e (hstretch.subset (by simp))) List.mem_cons_self

theorem IsItem.isName_or_hasNeighbours (h : IsItem t) : IsName t ∨ HasNeighbours t := by
  rcases Text.forall_or_first (·.isWord = true) t with hall | ⟨u, e, v, rfl, hu, he⟩
  · exact .inl ⟨h.ne_nil, hall⟩
  have hspace : e.isSpace = true := (h.isWord_or_isSpace e (by simp)).resolve_left he
  rcases Text.forall_or_first (·.isSpace = true) v with hall | ⟨g, d, w, rfl, hg, hd⟩
  · have hblank : IsBlank (e :: v) := List.forall_mem_cons.mpr ⟨hspace, hall⟩
    have hlast := List.getLast_mem_getLast? (List.cons_ne_nil e v)
    have hword := h.isWord_last _ (List.mem_getLast?_append_of_mem_getLast? hlast)
    exact absurd (List.mem_of_mem_getLast? hlast) (hblank.notMem_of_isWord hword)
  have hword : d.isWord = true := (h.isWord_or_isSpace d (by simp)).resolve_right hd
  rcases List.eq_nil_or_concat' u with rfl | ⟨u, c, rfl⟩
  · exact absurd (h.isWord_head e rfl) he
  · exact .inr ⟨c, e :: g, d, hu c (by simp), List.forall_mem_cons.mpr ⟨hspace, hg⟩,
      List.cons_ne_nil e g, hword, u, w, by simp⟩

theorem IsItem.isName_iff (h : IsItem t) : IsName t ↔ ¬ HasNeighbours t :=
  ⟨fun hname ↦ not_hasNeighbours_of_forall_isWord hname.2, h.isName_or_hasNeighbours.resolve_right⟩

def isListed (c : CodePoint) : Bool := c.isWord || c = .char ',' || c.isSpace

def itemsOf (t : Text) : List Text :=
  ((Text.splitOn (.char ',') t).map Text.trim).filter (!·.isEmpty)

theorem mem_itemsOf : t ∈ itemsOf s ↔
    t ≠ [] ∧ ∃ piece ∈ Text.splitOn (.char ',') s, Text.trim piece = t := by
  simp [itemsOf, and_comm]

theorem isItem_of_mem_itemsOf (hs : ∀ c ∈ s, isListed c = true) (ht : t ∈ itemsOf s) : IsItem t := by
  obtain ⟨hne, piece, hpiece, rfl⟩ := mem_itemsOf.mp ht
  have heither : ∀ c ∈ Text.trim piece, c.isWord = true ∨ c.isSpace = true := by
    intro c hc
    have hmem := (Text.trim_isInfix piece).subset hc
    have hlisted := hs c ((Text.isInfix_of_mem_splitOn piece hpiece).subset hmem)
    have hcomma : c ≠ .char ',' := fun heq ↦
      Text.not_mem_of_mem_splitOn piece hpiece (heq ▸ hmem)
    simpa [isListed, hcomma] using hlisted
  refine ⟨hne, heither, fun c hc ↦ ?_, fun c hc ↦ ?_⟩
  · have hspace := Text.isSpace_of_mem_head?_trim c hc
    exact (heither c (List.mem_of_mem_head? hc)).resolve_right (by rw [hspace]; decide)
  · have hspace := Text.isSpace_of_mem_getLast?_trim c hc
    exact (heither c (List.mem_of_mem_getLast? hc)).resolve_right (by rw [hspace]; decide)

theorem exists_hasNeighbours_iff (s : Text) : (∃ t ∈ itemsOf s, HasNeighbours t) ↔
    HasNeighbours s := by
  constructor
  · rintro ⟨t, ht, h⟩
    obtain ⟨-, piece, hpiece, rfl⟩ := mem_itemsOf.mp ht
    exact h.mono ((Text.trim_isInfix piece).trans (Text.isInfix_of_mem_splitOn piece hpiece))
  · rintro ⟨c, g, d, hc, hg, hne, hd, hstretch⟩
    have hcomma : CodePoint.char ',' ∉ c :: (g ++ [d]) := by
      intro hmem
      rw [List.mem_cons, List.mem_append, List.mem_singleton] at hmem
      rcases hmem with rfl | hmem | rfl
      · exact absurd hc (by decide)
      · exact absurd (hg _ hmem) (by decide)
      · exact absurd hd (by decide)
    obtain ⟨piece, hpiece, hstretch⟩ := Text.exists_mem_splitOn_of_isInfix hcomma hstretch
    have htrim := Text.isInfix_trim (CodePoint.isSpace_eq_false_of_isWord hc)
      (CodePoint.isSpace_eq_false_of_isWord hd) hstretch
    refine ⟨_, mem_itemsOf.mpr ⟨?_, piece, hpiece, rfl⟩, c, g, d, hc, hg, hne, hd, htrim⟩
    exact htrim.ne_nil (List.cons_ne_nil _ _)

/-- All items of a list of names are single words just if no two words have only white space between
them. -/
theorem forall_isName_itemsOf_iff (hs : ∀ c ∈ s, isListed c = true) :
    (∀ t ∈ itemsOf s, IsName t) ↔ ¬ HasNeighbours s := by
  rw [← exists_hasNeighbours_iff, not_exists]
  constructor
  · rintro h t ⟨ht, hneighbours⟩
    exact (isItem_of_mem_itemsOf hs ht).isName_iff.mp (h t ht) hneighbours
  · intro h t ht
    exact (isItem_of_mem_itemsOf hs ht).isName_iff.mpr fun hneighbours ↦ h t ⟨ht, hneighbours⟩

end Names

section Lists

variable {content specifier package t k names : Text}

def calls (content package : Text) : List Found :=
  (receivers package).flatMap fun r ↦ Text.findAll (methodPhrase r) startsReceiver content

def nameLists (content specifier : Text) : List Found :=
  Text.findAll (namesPhrase specifier) (fun _ ↦ true) content

theorem methods_eq (content package specifier : Text) : methods content package specifier =
    ((calls content package ++ nameLists content specifier).flatMap
      (itemsOf ·.captured)).eraseDups := by
  have hadd := foldl_addNew [] (((calls content package ++ nameLists content specifier).flatMap
    fun f ↦ (Text.splitOn (.char ',') f.captured).map Text.trim).filter (!·.isEmpty))
  rw [List.nil_append, List.eraseDups_nil] at hadd
  rw [methods, ← calls, ← nameLists, hadd, List.filter_flatMap]
  rfl

/-- A list of names between braces, taken from a module of that specifier. -/
inductive NamesClause (specifier : Text) : Text → Text → Prop
  | intro {names g g' : Text} {q q' : CodePoint} : (∀ c ∈ names, isListed c = true) → IsBlank g →
      IsBlank g' → isQuote q = true → isQuote q' = true →
      NamesClause specifier ("\x7b" ++ (names ++ ("\x7d" ++ (g ++ ("from" ++ (g' ++
        (q :: (specifier ++ [q'])))))))) names

def clauseTail (specifier : Text) : List Part :=
  [.exactly "\x7d", gap 0, .exactly "from", gap 0, .one isQuote, .exactly specifier, .one isQuote]

theorem namesPhrase_eq (specifier : Text) : namesPhrase specifier =
    .exactly "\x7b" :: gap 0 :: .long isListed 1 true :: gap 0 :: clauseTail specifier := rfl

theorem clauseTail_of_fits (h : Fits (clauseTail specifier) t k) : k = [] ∧ ∃ g g' q q',
    t = Text.ofString "\x7d" ++ (g ++ (Text.ofString "from" ++ (g' ++ (q :: (specifier ++ [q']))))) ∧
      IsBlank g ∧ IsBlank g' ∧ isQuote q = true ∧ isQuote q' = true := by
  obtain ⟨u, rfl, hgap⟩ := exactly_of_fits h
  obtain ⟨g, v, rfl, hg, -, hfrom⟩ := gap_of_fits hgap
  obtain ⟨w, rfl, hgap'⟩ := exactly_of_fits hfrom
  obtain ⟨g', x, rfl, hg', -, hquoted⟩ := gap_of_fits hgap'
  cases hquoted with
  | cons hopen hspecifier =>
    cases hspecifier with
    | cons hexactly hend =>
      cases hend with
      | cons hclose hnil =>
        cases hnil
        obtain ⟨q, rfl, hq⟩ := hopen
        obtain ⟨q', rfl, hq'⟩ := hclose
        obtain rfl := hexactly
        exact ⟨rfl, g, g', q, q', rfl, hg, hg', hq, hq'⟩

theorem fits_clauseTail {g g' : Text} {q q' : CodePoint} (hg : IsBlank g) (hg' : IsBlank g')
    (hq : isQuote q = true) (hq' : isQuote q' = true) :
    Fits (clauseTail specifier)
      ("\x7d" ++ (g ++ ("from" ++ (g' ++ (q :: (specifier ++ [q'])))))) [] := by
  have hopen : (Part.one isQuote).Takes [q] := ⟨q, rfl, hq⟩
  have hexactly : (Part.exactly specifier).Takes specifier := rfl
  have hclose : (Part.one isQuote).Takes [q'] := ⟨q', rfl, hq'⟩
  have hquoted := Fits.cons hopen (.cons hexactly (.cons hclose .nil))
  have hfrom : Fits [.exactly "from", gap 0, .one isQuote, .exactly specifier, .one isQuote]
      ("from" ++ (g' ++ (q :: (specifier ++ [q'])))) [] :=
    fits_exactly (fits_gap hg' (Nat.zero_le _) hquoted)
  exact fits_exactly (fits_gap hg (Nat.zero_le _) hfrom)

/-- What is found is a list of names, and what is captured of it are the names up to white space at
their ends. -/
theorem namesClause_of_fits (h : Fits (namesPhrase specifier) t k) : ∃ g g', IsBlank g ∧
    IsBlank g' ∧ (∀ c ∈ k, isListed c = true) ∧ NamesClause specifier t (g ++ (k ++ g')) := by
  rw [namesPhrase_eq] at h
  obtain ⟨u, rfl, hgap⟩ := exactly_of_fits h
  obtain ⟨g, v, rfl, hg, -, hlong⟩ := gap_of_fits hgap
  cases hlong with
  | @cons _ _ names w k hnames hgap' =>
    obtain ⟨g', x, rfl, hg', -, htail⟩ := gap_of_fits hgap'
    obtain ⟨rfl, b, b', q, q', rfl, hb, hb', hq, hq'⟩ := clauseTail_of_fits htail
    have hlisted : ∀ {a : Text}, IsBlank a → ∀ c ∈ a, isListed c = true := by
      intro a ha c hc
      rw [isListed, ha c hc, Bool.or_true]
    have hall : ∀ c ∈ g ++ (names ++ g'), isListed c = true := by
      simp only [List.forall_mem_append]
      exact ⟨hlisted hg, hnames.1, hlisted hg'⟩
    refine ⟨g, g', hg, hg', ?_, ?_⟩
    · simpa [Part.keep] using hnames.1
    · simpa [Part.keep] using NamesClause.intro hall hb hb' hq hq'

theorem fits_of_namesClause (h : NamesClause specifier t names) (hne : names ≠ []) :
    Fits (namesPhrase specifier) t names := by
  rw [namesPhrase_eq]
  cases h with
  | @intro names g g' q q' hnames hg hg' hq hq' =>
    have hlong : (Part.long isListed 1 true).Takes names :=
      ⟨hnames, List.length_pos_of_ne_nil hne⟩
    have hnone : IsBlank [] := fun c hc ↦ nomatch hc
    have htail : Fits (clauseTail specifier) _ [] := fits_clauseTail hg hg' hq hq'
    have hfits := Fits.cons hlong (fits_gap hnone (Nat.zero_le 0) htail)
    rw [Part.keep, List.append_nil, List.nil_append] at hfits
    have hgap := fits_gap hnone (Nat.zero_le 0) hfits
    exact fits_exactly hgap

theorem isWord_of_mem_calls {f : Found} (h : f ∈ calls content package) :
    ∀ c ∈ f.captured, c.isWord = true := by
  obtain ⟨r, -, hf⟩ := List.mem_flatMap.mp h
  obtain ⟨-, -, hfits⟩ := Text.exists_of_mem_findFrom hf
  generalize f.matched = t, f.captured = k at hfits
  cases hfits with
  | cons hreceiver hfits =>
    cases hfits with
    | cons hdot hfits =>
      cases hfits with
      | cons hname hnil =>
        cases hnil
        simpa [Part.keep] using hname.1

/-- A list that is found has two words with only white space between them. -/
def ListsNeighbours (content specifier : Text) : Prop :=
  ∃ f ∈ nameLists content specifier, HasNeighbours f.captured

def HoldsNeighbours (content specifier : Text) : Prop :=
  ∃ above here below names, content = above ++ (here ++ below) ∧ NamesClause specifier here names ∧
    HasNeighbours names

theorem HasNeighbours.of_between {g g' : Text} (hg : IsBlank g) (hg' : IsBlank g')
    (h : HasNeighbours (g ++ (t ++ g'))) : HasNeighbours t := by
  obtain ⟨c, x, d, hc, hx, hne, hd, hstretch⟩ := h
  exact ⟨c, x, d, hc, hx, hne, hd, Text.isInfix_of_isInfix_between (hg.notMem_of_isWord hc)
    (hg'.notMem_of_isWord hd) hstretch⟩

theorem ListsNeighbours.holdsNeighbours (h : ListsNeighbours content specifier) :
    HoldsNeighbours content specifier := by
  obtain ⟨f, hf, hneighbours⟩ := h
  obtain ⟨above, rfl, hfits⟩ := Text.exists_of_mem_findFrom hf
  obtain ⟨g, g', -, -, -, hclause⟩ := namesClause_of_fits hfits
  exact ⟨above, f.matched, f.rest, _, rfl, hclause, hneighbours.mono ⟨g, g', by simp⟩⟩

theorem isListed_brace : isListed (.char '\x7b') = false ∧ isListed (.char '\x7d') = false := by
  decide +kernel

theorem NamesClause.exists_eq_cons (h : NamesClause specifier t names)
    (hbrace : CodePoint.char '\x7b' ∉ specifier) :
    ∃ u, t = .char '\x7b' :: u ∧ CodePoint.char '\x7b' ∉ u := by
  cases h with
  | @intro names g g' q q' hnames hg hg' hq hq' =>
    have hnot : ∀ {p : CodePoint → Bool} {a : Text}, (∀ c ∈ a, p c = true) →
        p (.char '\x7b') = false → CodePoint.char '\x7b' ∉ a := by
      intro p a ha hp hmem
      rw [ha _ hmem] at hp
      cases hp
    have hspace : (CodePoint.char '\x7b').isSpace = false := by decide
    have hquoted : CodePoint.char '\x7b' ∉ q :: (specifier ++ [q']) := by
      rw [List.mem_cons, List.mem_append, List.mem_singleton]
      rintro (rfl | hmem | rfl)
      · exact absurd hq (by decide)
      · exact hbrace hmem
      · exact absurd hq' (by decide)
    have hwords : ∀ w ∈ ["\x7d", "from"], CodePoint.char '\x7b' ∉ Text.ofString w := by decide
    refine ⟨names ++ (Text.ofString "\x7d" ++ (g ++ (Text.ofString "from" ++ (g' ++
      (q :: (specifier ++ [q'])))))), rfl, ?_⟩
    simp only [List.mem_append, not_or]
    exact ⟨hnot hnames isListed_brace.1, hwords _ (by simp), hnot hg hspace, hwords _ (by simp),
      hnot hg' hspace, hquoted⟩

theorem NamesClause.names_eq {t' names' r r' : Text} (h : NamesClause specifier t names)
    (h' : NamesClause specifier t' names') (heq : t ++ r = t' ++ r') : names = names' := by
  have hnot : ∀ {a : Text}, (∀ c ∈ a, isListed c = true) → ∀ c ∈ a, c ≠ .char '\x7d' := by
    rintro a ha c hc rfl
    exact absurd (ha _ hc) (by rw [isListed_brace.2]; decide)
  cases h with
  | intro hnames _ _ _ _ =>
    cases h' with
    | intro hnames' _ _ _ _ =>
      have hclose : Text.ofString "\x7d" = [.char '\x7d'] := rfl
      simp only [List.append_assoc, List.append_cancel_left_eq, hclose, List.singleton_append] at heq
      exact (Text.first_unique (hnot hnames) (hnot hnames') (not_not_intro rfl) (not_not_intro rfl)
        heq).1

/-- A list that stands in the text is found, or another one that reaches into it: where the
specifier holds no brace, that is none. -/
theorem HoldsNeighbours.listsNeighbours (h : HoldsNeighbours content specifier)
    (hbrace : CodePoint.char '\x7b' ∉ specifier) : ListsNeighbours content specifier := by
  obtain ⟨above, here, below, names, rfl, hclause, hneighbours⟩ := h
  obtain ⟨v, hv, -⟩ := hclause.exists_eq_cons hbrace
  have hne : names ≠ [] := by
    rintro rfl
    obtain ⟨c, g, d, -, -, -, -, hstretch⟩ := hneighbours
    cases List.infix_nil.mp hstretch
  refine Text.exists_mem_findFrom (fun _ ↦ rfl) (by simp [hv])
    (Text.isSome_matchPhrase (fits_of_namesClause hclause hne) below)
    (fun t f ↦ Text.matched_pos (by decide)) ?_ (Nat.zero_le _)
  intro a b f _ hmatch hlong
  obtain ⟨hsplit, hfits⟩ := Text.fits_of_matchPhrase hmatch
  obtain ⟨g, g', hg, hg', -, hfound⟩ := namesClause_of_fits hfits
  obtain ⟨u, hu, hnot⟩ := hfound.exists_eq_cons hbrace
  cases b with
  | nil =>
    rw [hclause.names_eq hfound hsplit] at hneighbours
    exact hneighbours.of_between hg hg'
  | cons e b =>
    -- The brace of the list would be a second one of what is found.
    rw [hu, hv, List.cons_append, List.cons_append, List.cons_append, List.cons.injEq] at hsplit
    rw [hu, List.length_cons, List.length_cons, Nat.succ_lt_succ_iff] at hlong
    exact absurd (mem_of_append_eq hsplit.2 hlong) hnot

end Lists

section Methods

variable {content specifier package : Text} {declared : List Text} {files : List Source}

/-- Each entry is one word, or several with white space between them, and none is there twice. -/
structure AreItems (ts : List Text) : Prop where
  nodup : ts.Nodup
  isItem : ∀ t ∈ ts, IsItem t

theorem isListed_of_mem {f : Found} (h : f ∈ calls content package ++ nameLists content specifier) :
    ∀ c ∈ f.captured, isListed c = true := by
  rcases List.mem_append.mp h with hf | hf
  · intro c hc
    rw [isListed, isWord_of_mem_calls hf c hc, Bool.true_or, Bool.true_or]
  · obtain ⟨-, -, hfits⟩ := Text.exists_of_mem_findFrom hf
    obtain ⟨-, -, -, -, hlisted, -⟩ := namesClause_of_fits hfits
    exact hlisted

theorem areItems_methods (content package specifier : Text) :
    AreItems (methods content package specifier) := by
  rw [methods_eq]
  refine ⟨Distinct.nodup_eraseDups _, fun t ht ↦ ?_⟩
  obtain ⟨f, hf, ht⟩ := List.mem_flatMap.mp (List.mem_eraseDups.mp ht)
  exact isItem_of_mem_itemsOf (isListed_of_mem hf) ht

theorem forall_isName_methods_iff : (∀ t ∈ methods content package specifier, IsName t) ↔
    ¬ ListsNeighbours content specifier := by
  simp only [methods_eq, List.mem_eraseDups, List.mem_flatMap]
  constructor
  · rintro h ⟨f, hf, hneighbours⟩
    have hmem : f ∈ calls content package ++ nameLists content specifier := List.mem_append_right _ hf
    exact (forall_isName_itemsOf_iff (isListed_of_mem hmem)).mp (fun t ht ↦ h t ⟨f, hmem, ht⟩)
      hneighbours
  · rintro h t ⟨f, hmem, ht⟩
    refine (forall_isName_itemsOf_iff (isListed_of_mem hmem)).mpr ?_ t ht
    rcases List.mem_append.mp hmem with hf | hf
    · exact not_hasNeighbours_of_forall_isWord (isWord_of_mem_calls hf)
    · exact fun hneighbours ↦ h ⟨f, hf, hneighbours⟩

theorem mem_methods_usageOf {t : Text} : t ∈ (usageOf files package).methods ↔
    ∃ m ∈ mentionsOf files package, t ∈ methods m.file.content package m.specifier := by
  rw [usageOf, List.mem_eraseDups, List.mem_flatMap]

theorem areItems_usageOf (files : List Source) (package : Text) :
    AreItems (usageOf files package).methods := by
  refine ⟨Distinct.nodup_eraseDups _, fun t ht ↦ ?_⟩
  obtain ⟨m, -, ht⟩ := mem_methods_usageOf.mp ht
  exact (areItems_methods _ _ _).isItem t ht

theorem forall_isName_usageOf_iff : (∀ t ∈ (usageOf files package).methods, IsName t) ↔
    ∀ m ∈ mentionsOf files package, ¬ ListsNeighbours m.file.content m.specifier := by
  simp only [mem_methods_usageOf]
  constructor
  · exact fun h m hm ↦ forall_isName_methods_iff.mp fun t ht ↦ h t ⟨m, hm, ht⟩
  · exact fun h t ⟨m, hm, ht⟩ ↦ forall_isName_methods_iff.mpr (h m hm) t ht

/-- The methods that are found, in one text or by a scan, are single words just if no list of names
has two words with only white space between them. -/
theorem methods_are_names_iff (hdeclared : declared.Nodup) (files : List Source)
    (content package specifier : Text) :
    AreItems (methods content package specifier) ∧
    ((∀ t ∈ methods content package specifier, IsName t) ↔ ¬ ListsNeighbours content specifier) ∧
    (CodePoint.char '\x7b' ∉ specifier →
      (ListsNeighbours content specifier ↔ HoldsNeighbours content specifier)) ∧
    ∀ e ∈ (scan declared files).packages, AreItems e.2.methods ∧
      ((∀ t ∈ e.2.methods, IsName t) ↔
        ∀ m ∈ mentionsOf files e.1, ¬ ListsNeighbours m.file.content m.specifier) := by
  refine ⟨areItems_methods content package specifier, forall_isName_methods_iff,
    fun hbrace ↦ ⟨fun h ↦ h.holdsNeighbours, fun h ↦ h.listsNeighbours hbrace⟩, ?_⟩
  intro e he
  rw [packages_scan hdeclared, List.mem_map] at he
  obtain ⟨p, -, rfl⟩ := he
  exact ⟨areItems_usageOf files p, forall_isName_usageOf_iff⟩

def typedContent : Text := "import \x7b type T, map \x7d from 'lodash';"

theorem holdsNeighbours_typedContent : HoldsNeighbours typedContent "lodash" := by
  have hnames : ∀ c ∈ Text.ofString " type T, map ", isListed c = true := by decide +kernel
  have hgap : IsBlank " " := by decide
  have hquote : isQuote (.char '\x27') = true := by decide
  refine ⟨"import ", _, ";", " type T, map ", ?_, .intro hnames hgap hgap hquote hquote,
    .char 'e', " ", .char 'T', by decide, hgap, by decide, by decide, " typ", ", map ", by decide⟩
  decide

theorem methods_are_names_iff_typedContent : [Text.ofString "lodash"].Nodup ∧
    CodePoint.char '\x7b' ∉ Text.ofString "lodash" ∧
    ¬ (∀ t ∈ methods typedContent "lodash" "lodash", IsName t) ∧
    ∀ e ∈ (scan ["lodash"] [⟨"a.ts", typedContent⟩]).packages, AreItems e.2.methods := by
  have hdeclared : [Text.ofString "lodash"].Nodup := by decide
  have hbrace : CodePoint.char '\x7b' ∉ Text.ofString "lodash" := by decide
  obtain ⟨-, hnames, hholds, hscan⟩ :=
    methods_are_names_iff hdeclared [⟨"a.ts", typedContent⟩] typedContent "lodash" "lodash"
  refine ⟨hdeclared, hbrace, ?_, fun e he ↦ (hscan e he).1⟩
  exact fun h ↦ hnames.mp h ((hholds hbrace).mpr holdsNeighbours_typedContent)

/-- A name that is taken under another one makes one entry of three words. -/
theorem methods_of_renamed_name :
    methods "import \x7b merge as m \x7d from 'lodash';" "lodash" "lodash" =
      [Text.ofString "merge as m"] ∧ ¬ IsName "merge as m" := by
  decide +kernel

end Methods

end PackageAudit.Scan
