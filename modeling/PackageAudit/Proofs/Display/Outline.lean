import PackageAudit.Display.Outline

namespace PackageAudit.Display.Outline

variable {α β : Type}

mutual

def map (f : α → β) : Outline α → Outline β
  | node a os => node (f a) (mapAll f os)

def mapAll (f : α → β) : List (Outline α) → List (Outline β)
  | [] => []
  | o :: os => map f o :: mapAll f os

end

mutual

def labels : Outline α → List α
  | node a os => a :: labelsOfAll os

def labelsOfAll : List (Outline α) → List α
  | [] => []
  | o :: os => labels o ++ labelsOfAll os

end

theorem mapAll_eq (f : α → β) (os : List (Outline α)) : mapAll f os = os.map (map f) := by
  induction os with
  | nil => rfl
  | cons o os ih => rw [mapAll, ih, List.map_cons]

theorem forall_mem_labelsOfAll {P : α → Prop} {os : List (Outline α)} :
    (∀ a ∈ labelsOfAll os, P a) ↔ ∀ o ∈ os, ∀ a ∈ o.labels, P a := by
  induction os with
  | nil => simp [labelsOfAll]
  | cons o os ih => rw [labelsOfAll, List.forall_mem_append, ih, List.forall_mem_cons]

variable {f : α → Label} {g : α → Text}

theorem plain_node_eq_iff {l : Label} {os : List (Outline Label)} {t : Text}
    {ts : List (Outline Text)} :
    (node l os).plain = .ok (node t ts) ↔ l.plain = .ok t ∧ plainAll os = .ok ts := by
  rw [plain]
  cases l.plain with
  | error b => simp [bind, Except.bind]
  | ok u => cases plainAll os <;> simp [bind, Except.bind, pure, Except.pure]

theorem plainAll_cons_eq_iff {o : Outline Label} {os : List (Outline Label)} {t : Outline Text}
    {ts : List (Outline Text)} :
    plainAll (o :: os) = .ok (t :: ts) ↔ o.plain = .ok t ∧ plainAll os = .ok ts := by
  rw [plainAll]
  cases o.plain with
  | error b => simp [bind, Except.bind]
  | ok u => cases plainAll os <;> simp [bind, Except.bind, pure, Except.pure]

mutual

/-- An outline shows texts in place of its labels just if each label shows its text. -/
theorem plain_map_eq_iff : ∀ o : Outline α,
    (o.map f).plain = .ok (o.map g) ↔ ∀ a ∈ o.labels, (f a).plain = .ok (g a)
  | node a os => by
    rw [map, map, plain_node_eq_iff, plainAll_mapAll_eq_iff os, labels, List.forall_mem_cons]

theorem plainAll_mapAll_eq_iff : ∀ os : List (Outline α),
    plainAll (mapAll f os) = .ok (mapAll g os) ↔ ∀ a ∈ labelsOfAll os, (f a).plain = .ok (g a)
  | [] => by simp [mapAll, plainAll, labelsOfAll, pure, Except.pure]
  | o :: os => by
    rw [mapAll, mapAll, plainAll_cons_eq_iff, plain_map_eq_iff o, plainAll_mapAll_eq_iff os,
      labelsOfAll, List.forall_mem_append]

end

end PackageAudit.Display.Outline
