import Walkthrough.Proofs.Agreement
import Walkthrough.Proofs.FreshDefaults

/-!
# The catalogue as it was at the beginning

At the beginning there is one step for each of the five topics. Their orders ascend, and each goes
by the name of its topic, so what a step gives is known from its place alone. All of this follows
from the attributes of the steps, and so it holds in every store that has not changed them.

The condition is one on kinds and attributes, and leaves open at which addresses the dictionaries
are, and what else is in the store. A session that has replaced the catalogue by one with the same
attributes is back at the beginning in this sense. All that a run asks of its steps, which is their
orders, their names and their descriptions, is evaluated once, and later modules speak of topics
instead of steps.

## Main definitions

* `Topic.inOrder` — the topics in the order of their steps
* `Topic.name`, `Topic.place` — the name and the order of the step that demonstrates a topic

## Main results

* `Store.HoldsCatalogue.listSteps` — the steps are listed as they stand
* `Store.HoldsCatalogue.linesOfStep` — the lines of the steps are those of their topics
* `Store.HoldsCatalogue.findStep_name`, `Store.HoldsCatalogue.findStep_of_ofName?` — which texts
  find a step
-/

namespace Walkthrough

/-- What stands in one of two lists that are related element by element has its counterpart. -/
theorem exists_mem_of_forall₂ {α β : Type} {R : α → β → Prop} {as : List α} {bs : List β}
    (h : List.Forall₂ R as bs) {a : α} (ha : a ∈ as) : ∃ b ∈ bs, R a b := by
  induction h with
  | nil => cases ha
  | cons hab _ ih =>
    rcases List.mem_cons.1 ha with rfl | ha
    · exact ⟨_, List.mem_cons_self, hab⟩
    · obtain ⟨b, hb, hab⟩ := ih ha
      exact ⟨b, List.mem_cons_of_mem _ hb, hab⟩

namespace Topic

/-- The topics in the order in which they are demonstrated at the beginning. -/
def inOrder : List Topic := [.greeting, .sum, .threshold, .loop, .person]

/-- The name of the step that demonstrates a topic. -/
def name : Topic → String
  | .greeting => "greeting"
  | .sum => "sum"
  | .threshold => "threshold"
  | .loop => "loop"
  | .person => "person"

/-- The place of that step in the order. -/
def place : Topic → Int
  | .greeting => 1
  | .sum => 2
  | .threshold => 3
  | .loop => 4
  | .person => 5

@[simp] theorem ofName?_name (topic : Topic) : ofName? topic.name = some topic := by
  cases topic <;> rfl

theorem mem_inOrder (topic : Topic) : topic ∈ inOrder := by
  cases topic <;> decide

theorem eq_name_of_ofName? {name : String} {topic : Topic} (h : ofName? name = some topic) :
    name = topic.name := by
  unfold ofName? at h
  split at h <;> cases h <;> rfl

/-- Any other text is the name of none. -/
theorem ofName?_eq_none_iff {name : String} :
    ofName? name = none ↔ ∀ topic : Topic, name ≠ topic.name := by
  constructor
  · rintro h topic rfl
    rw [ofName?_name] at h
    cases h
  · intro h
    cases hname : ofName? name with
    | none => rfl
    | some topic => exact absurd (eq_name_of_ofName? hname) (h topic)

end Topic

namespace Store

variable {s : Store} {steps : List Record} {settings only : Value}

/-- Steps whose orders are integers that do not descend are listed as they stand. -/
theorem listSteps_of_orders (orders : List Int)
    (h : List.Forall₂ (fun e n => s.field e "order" = .ok (.int n)) steps orders)
    (hsorted : orders.Pairwise (· ≤ ·)) : s.listSteps steps = .ok steps := by
  have hkeyed : s.withOrders steps = .ok ((orders.zip steps).map fun p => (.int p.1, p.2)) := by
    clear hsorted
    unfold withOrders
    induction h with
    | nil => rfl
    | cons hfirst _ ih =>
      rw [List.mapM_cons, ih]
      simp only [hfirst]
      rfl
  have hlength : steps.length ≤ orders.length := h.length_eq.le
  have hpairs : (orders.zip steps).Pairwise fun p q => p.1 ≤ q.1 := by
    rw [← List.pairwise_map (f := Prod.fst), List.map_fst_zip h.length_eq.ge]
    exact hsorted
  rw [listSteps_of_pairwise hkeyed hpairs, List.map_snd_zip hlength]

/-- No step goes by a text that is the name of none. -/
theorem findStep_eq_none {t : String}
    (h : ∀ e ∈ steps, ∃ u, s.field e "name" = .ok (.text u) ∧ u ≠ t) :
    s.findStep (.text t) steps = .ok none := by
  induction steps with
  | nil => rfl
  | cons e rest ih =>
    obtain ⟨⟨u, hu, hne⟩, hrest⟩ := List.forall_mem_cons.1 h
    simp only [findStep, hu, bind, Except.bind, equal_text, decide_eq_false hne, ih hrest]
    rfl

namespace HoldsCatalogue

/-- **The steps** are those of the five topics in their order, each with the attributes that it has
at the beginning. -/
theorem forall₂ (h : s.HoldsCatalogue steps) :
    List.Forall₂ (fun e topic => ∃ description, '[' ∉ description.toList ∧
      s.attributesAt e.attributes = .ofNames (Step.make topic.name description topic.place))
      steps Topic.inOrder := by
  unfold HoldsCatalogue catalogue at h
  simp only [List.map_cons, List.map_nil] at h
  obtain ⟨d₁, _, rfl, h₁, h⟩ := List.map_eq_cons_iff.1 h
  obtain ⟨d₂, _, rfl, h₂, h⟩ := List.map_eq_cons_iff.1 h
  obtain ⟨d₃, _, rfl, h₃, h⟩ := List.map_eq_cons_iff.1 h
  obtain ⟨d₄, _, rfl, h₄, h⟩ := List.map_eq_cons_iff.1 h
  obtain ⟨d₅, _, rfl, h₅, h⟩ := List.map_eq_cons_iff.1 h
  obtain rfl := List.map_eq_nil_iff.1 h
  exact .cons ⟨_, by decide, (Prod.mk.inj h₁).2⟩ (.cons ⟨_, by decide, (Prod.mk.inj h₂).2⟩
    (.cons ⟨_, by decide, (Prod.mk.inj h₃).2⟩ (.cons ⟨_, by decide, (Prod.mk.inj h₄).2⟩
      (.cons ⟨_, by decide, (Prod.mk.inj h₅).2⟩ .nil))))

/-- The fields of each step. -/
theorem fields (h : s.HoldsCatalogue steps) {e : Record} (he : e ∈ steps) :
    ∃ (topic : Topic) (description : String), '[' ∉ description.toList ∧
      s.field e "name" = .ok (.text topic.name) ∧
      s.field e "description" = .ok (.text description) ∧
      s.field e "order" = .ok (.int topic.place) := by
  obtain ⟨topic, -, description, hplain, hattributes⟩ := exists_mem_of_forall₂ h.forall₂ he
  exact ⟨topic, description, hplain, field_of_attributesAt hattributes rfl,
    field_of_attributesAt hattributes rfl, field_of_attributesAt hattributes rfl⟩

theorem names (h : s.HoldsCatalogue steps) :
    ∀ e ∈ steps, ∃ u, s.field e "name" = .ok (.text u) := by
  intro e he
  obtain ⟨topic, -, -, hname, -⟩ := h.fields he
  exact ⟨topic.name, hname⟩

/-- The steps are listed as they stand. -/
theorem listSteps (h : s.HoldsCatalogue steps) : s.listSteps steps = .ok steps := by
  refine listSteps_of_orders (Topic.inOrder.map Topic.place) ?_ (by decide)
  rw [List.forall₂_map_right_iff]
  refine h.forall₂.imp fun e topic hstep => ?_
  obtain ⟨description, -, hattributes⟩ := hstep
  exact field_of_attributesAt hattributes rfl

/-- The name of a topic finds a step. -/
theorem findStep_name (h : s.HoldsCatalogue steps) (topic : Topic) :
    ∃ e, s.findStep (.text topic.name) steps = .ok (some e) := by
  obtain ⟨e, he, description, -, hattributes⟩ :=
    exists_mem_of_forall₂ h.forall₂.flip topic.mem_inOrder
  exact exists_findStep he (field_of_attributesAt hattributes rfl) h.names

/-- No other text finds one. -/
theorem findStep_of_ofName? (h : s.HoldsCatalogue steps) {t : String}
    (ht : Topic.ofName? t = none) : s.findStep (.text t) steps = .ok none := by
  refine findStep_eq_none fun e he => ?_
  obtain ⟨topic, -, -, hname, -⟩ := h.fields he
  refine ⟨topic.name, hname, ?_⟩
  rintro rfl
  rw [Topic.ofName?_name] at ht
  cases ht

/-- A step that goes by the name of a topic gives its lines. -/
theorem linesOfStep_of_name (h : s.HoldsCatalogue steps) {e : Record} {topic : Topic}
    (hname : s.field e "name" = .ok (.text topic.name)) (settings : Value) :
    s.linesOfStep steps settings e = s.topicLines settings topic := by
  obtain ⟨d, hd⟩ := h.findStep_name topic
  have htopic : (Value.text topic.name).topic? = some topic := topic.ofName?_name
  simp only [Store.linesOfStep, hname, stepLines, hd, htopic]

/-- **The lines of the steps** are those of their topics. -/
theorem linesOfStep (h : s.HoldsCatalogue steps) (settings : Value) :
    List.Forall₂ (fun e topic =>
      s.linesOfStep steps settings e = s.topicLines settings topic) steps Topic.inOrder := by
  refine h.forall₂.imp fun e topic hstep => ?_
  obtain ⟨description, -, hattributes⟩ := hstep
  exact h.linesOfStep_of_name (field_of_attributesAt hattributes rfl) settings

/-- A run without a step that is asked for goes through all steps. -/
theorem selectSteps (h : s.HoldsCatalogue steps) (honly : s.truthy only = false) :
    s.selectSteps steps only = .ok steps := by
  rw [Store.selectSteps, if_neg (by simp [honly]), h.listSteps]

/-- A plain run goes through them one after another. -/
theorem run_plain (h : s.HoldsCatalogue steps) (honly : s.truthy only = false) :
    s.run (.plain []) steps settings only = runSteps (.plain []) steps settings s 0 steps := by
  simp only [run, h.selectSteps honly]

end HoldsCatalogue

end Store

end Walkthrough
