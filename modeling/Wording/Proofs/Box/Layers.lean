import Wording.Box.Basic
import Wording.Proofs.Catalog.Merge
import Wording.Proofs.Outcome

/-!
# Messages from two layers

A box merges its own messages over those of the defaults and selects from what comes out. The same
entry is found in the two layers as they are: `CatalogNode.layered` says which one it is, without
merging.

* `select_merge`: selecting from merged messages and from the layers
* `outcome_message`: a box answers with the entry of the layers
-/

namespace Wording

/-! ## Selecting from the layers -/

namespace CatalogNode

/-- The entry that a node gives a field: the node itself, unless it is a dictionary; from a
dictionary that of the field, or else the default. -/
def entry (generic : Option String) : CatalogNode → Option CatalogNode
  | .leaf v => some (.leaf v)
  | .node c => (generic.bind fun n => filled? c (.str n)).or (filled? c Catalog.defaultKey)

/--
The entry for a field in two layers, the shared one and the one of a box. Two dictionaries are asked
in turn, for the field first and then for the default; else the layer of the box decides alone if it
has anything to say.
-/
def layered (generic : Option String) : Option CatalogNode → Option CatalogNode →
    Option CatalogNode
  | some (.node shared), some (.node own) =>
    (generic.bind fun n => (filled? own (.str n)).or (filled? shared (.str n))).or
      ((filled? own Catalog.defaultKey).or (filled? shared Catalog.defaultKey))
  | shared, none => shared.bind (entry generic)
  | _, some own => own.entry generic

/-- What can be said with an entry: a text or a callable. -/
def said? : CatalogNode → Option Value
  | .leaf v => if v.isCallable then some v else match v with
    | .str s => some (.str s)
    | _ => none
  | .node _ => none

theorem filled?_of_clean {c : Catalog} (h : c.Clean) (k : Value) : filled? c k = c.find? k := by
  unfold filled?
  cases hf : c.find? k with
  | none => rfl
  | some n =>
    cases n with
    | node children => rfl
    | leaf v =>
      have hv : v ≠ .null := Catalog.clean_of_find? h hf
      cases v <;> first | rfl | exact absurd rfl hv

/-- A leaf that is selected says what its entry says. -/
theorem bind_leaf?_said? (e : Option CatalogNode) :
    ((e.bind leaf?).map CatalogNode.leaf).bind said? = e.bind said? := by
  match e with
  | none => rfl
  | some (.node _) => rfl
  | some (.leaf v) => cases v <;> rfl

/-- Selecting from one node says what its entry says. -/
theorem select_said? (generic : Option String) (n : CatalogNode) :
    ((n.select generic).map CatalogNode.leaf).bind said? = (n.entry generic).bind said? := by
  cases n with
  | leaf v => cases v <;> rfl
  | node c => exact bind_leaf?_said? _

/-- A merged node says what the upper one says, or else the lower one. -/
theorem mergeNode_or_said? (below above : Option CatalogNode) {e e' : Option CatalogNode}
    (h : e.bind said? = e'.bind said?) :
    ((Catalog.mergeNode below above).or e).bind said? = ((above.or below).or e').bind said? := by
  match below, above with
  | none, none => exact h
  | some (.leaf _), none => rfl
  | some (.node _), none => rfl
  | none, some (.leaf _) => rfl
  | none, some (.node _) => rfl
  | some (.leaf _), some (.leaf _) => rfl
  | some (.leaf _), some (.node _) => rfl
  | some (.node _), some (.leaf _) => rfl
  | some (.node _), some (.node _) => rfl

/-- **Two merged dictionaries are asked in turn.** -/
theorem select_merge_said? {shared own : Catalog} (hs : shared.Clean) (ho : own.Clean)
    (generic : Option String) :
    ((select generic (.node (shared.merge own))).map CatalogNode.leaf).bind said? =
      (layered generic (some (.node shared)) (some (.node own))).bind said? := by
  have hm : ∀ k, filled? (shared.merge own) k =
      Catalog.mergeNode (filled? shared k) (filled? own k) := by
    intro k
    rw [filled?_of_clean (Catalog.clean_merge shared own hs), filled?_of_clean hs,
      filled?_of_clean ho, Catalog.find?_merge shared own ho]
  have hd : (Catalog.mergeNode (filled? shared Catalog.defaultKey)
      (filled? own Catalog.defaultKey)).bind said? =
      ((filled? own Catalog.defaultKey).or (filled? shared Catalog.defaultKey)).bind said? := by
    have h : (none : Option CatalogNode).bind said? = (none : Option CatalogNode).bind said? := rfl
    simpa using mergeNode_or_said? (filled? shared Catalog.defaultKey)
      (filled? own Catalog.defaultKey) h
  rw [select_said?, entry, layered]
  simp only [hm]
  cases generic with
  | none => exact hd
  | some n => exact mergeNode_or_said? _ _ hd

/-- **Selecting from merged messages says what the entry of the layers says.** -/
theorem select_merge {shared own : Catalog} (hs : shared.Clean) (ho : own.Clean)
    (generic : Option String) (k : Value) :
    ((((shared.merge own).find? k).bind (select generic)).map CatalogNode.leaf).bind said? =
      (layered generic (filled? shared k) (filled? own k)).bind said? := by
  rw [Catalog.find?_merge shared own ho, filled?_of_clean hs, filled?_of_clean ho]
  -- Only where both layers hold a dictionary do both of them have a say.
  match hsk : shared.find? k, hok : own.find? k with
  | none, none => rfl
  | some (.leaf v), none => exact select_said? generic (.leaf v)
  | some (.node c), none => exact select_said? generic (.node c)
  | none, some (.leaf v) => exact select_said? generic (.leaf v)
  | some (.leaf _), some (.leaf v) => exact select_said? generic (.leaf v)
  | some (.node _), some (.leaf v) => exact select_said? generic (.leaf v)
  | none, some (.node c) =>
    rw [Catalog.mergeNode_of_ne_node (by simp) (Catalog.clean_of_find? ho hok)]
    exact select_said? generic (.node c)
  | some (.leaf _), some (.node c) =>
    rw [Catalog.mergeNode_of_ne_node (by simp) (Catalog.clean_of_find? ho hok)]
    exact select_said? generic (.node c)
  | some (.node a), some (.node c) =>
    exact select_merge_said? (Catalog.clean_of_find? hs hsk) (Catalog.clean_of_find? ho hok) generic

end CatalogNode

namespace Session

/-! ## Answering with an entry -/

/-- The language that is asked for; the one of the box is read where none is given. -/
def askLanguage (id : Nat) (language : Value) : Session Value :=
  match language with
  | .null => readLanguage id
  | v => pure v

/-- The language that a request to a box is about. -/
def requested (b : Box) (language : Value) : Value :=
  match language with
  | .null => b.language
  | v => v

/-- The field that an issue is about. -/
def fieldOf (fields : Entries) : Value := (fields.lookup (.str "name")).getD .null

/-- The type of the error that an issue is. -/
def typeOf (fields : Entries) : Value := (fields.lookup (.str "type")).getD .null

/-- Both layers hold dictionaries for a language, or one does and the other holds nothing. -/
structure HoldsLanguage (shared own : Catalog) (language : Value) : Prop where
  isKey : language.isKey = true
  shared_node : ∀ n, shared.find? language = some n → ∃ c, n = .node c
  own_node : ∀ n, own.find? language = some n → ∃ c, n = .node c
  held : (shared.find? language).isSome ∨ (own.find? language).isSome

/-! ## What is read -/

theorem outcome_reading {α : Type} {f : Heap → Except Failure α} {w : World} {a : α}
    (h : f w.heap = .ok a) : outcome (reading f) w = (.ok a, w) := by
  rw [reading, outcome_get_bind, h, outcome_pure]

theorem outcome_box_eq (id : Nat) (w : World) :
    outcome (box id) w = (w.boxes[id]?.elim (.error (.fault .exhausted)) .ok, w) := by
  rw [box, outcome_get_bind]
  cases w.boxes[id]? <;> rfl

theorem outcome_box {w : World} {id : Nat} {b : Box} (h : w.boxes[id]? = some b) :
    outcome (box id) w = (.ok b, w) := by
  rw [outcome_box_eq, h, Option.elim_some]

/-- Reading the language of a box changes no more than what is known of who reads it. -/
theorem exists_asked {w : World} {id : Nat} {b : Box} (hb : w.boxes[id]? = some b)
    (language : Value) :
    ∃ boxes graph t, outcome (askLanguage id language) w =
        (.ok (requested b language), { w with boxes := boxes, graph := graph }) ∧
      boxes[id]? = some { b with tracker := t } := by
  by_cases hl : language = .null
  · subst hl
    rw [askLanguage, readLanguage, outcome_bind_of_ok (outcome_box hb), requested]
    obtain ⟨hlt, _⟩ := Array.getElem?_eq_some_iff.mp hb
    cases ht : b.tracker with
    | none => exact ⟨w.boxes, w.graph, .none, rfl, by rw [← ht, hb]⟩
    | dependency d =>
      exact ⟨w.boxes, (w.graph.depend d none).2, .dependency d, rfl, by rw [← ht, ← hb]⟩
    | recording n m =>
      exact ⟨_, w.graph, .recording (n + 1) m, rfl,
        by rw [Array.getElem?_setIfInBounds_self_of_lt hlt]⟩
  · have ha : askLanguage id language = pure language := by
      cases language <;> first | rfl | exact absurd rfl hl
    have hr : requested b language = language := by
      cases language <;> first | rfl | exact absurd rfl hl
    exact ⟨w.boxes, w.graph, b.tracker, by rw [ha, hr, outcome_pure], hb⟩

theorem ofNode?_find? {c : Catalog} {language : Value} (h : Heap)
    (hn : ∀ n, c.find? language = some n → ∃ children, n = .node children) :
    Catalog.ofNode? h (c.find? language) = .ok (c.below language) := by
  unfold Catalog.below
  cases hf : c.find? language with
  | none => rfl
  | some n =>
    obtain ⟨children, rfl⟩ := hn n hf
    rfl

/-- The messages of a language are those of both layers, merged. -/
theorem layered?_eq {shared own : Catalog} {language : Value} (h : Heap)
    (hl : HoldsLanguage shared own language) (hs : shared.Clean) :
    Catalog.layered? h shared own language =
      .ok (some ((shared.below language).merge (own.below language))) := by
  have hheld : ((shared.find? language).isNone && (own.find? language).isNone) = false := by
    rcases hl.held with hsome | hsome
    · obtain ⟨n, hn⟩ := Option.isSome_iff_exists.mp hsome
      rw [hn]
      rfl
    · obtain ⟨n, hn⟩ := Option.isSome_iff_exists.mp hsome
      rw [hn, Bool.and_comm]
      rfl
  have hcopy : Catalog.mergeAll [] [shared.below language, own.below language] =
      (shared.below language).merge (own.below language) := by
    rw [Catalog.mergeAll, List.foldl_cons, Catalog.merge_nil (Catalog.clean_below hs language)]
    rfl
  unfold Catalog.layered? Catalog.atLanguage
  rw [if_pos hl.isKey, if_pos hl.isKey]
  simp only [bind, Except.bind, hheld, ofNode?_find? h hl.shared_node,
    ofNode?_find? h hl.own_node, hcopy]
  rfl

theorem outcome_boxMessages {w w' : World} {id : Nat} {b : Box} {language : Value}
    (ha : outcome (askLanguage id language) w = (.ok (requested b language), w'))
    (hb : w'.boxes[id]? = some b)
    (hl : HoldsLanguage w'.defaults.messages b.messages (requested b language))
    (hs : w'.defaults.messages.Clean) :
    outcome (boxMessages id language) w =
      (.ok ((w'.defaults.messages.below (requested b language)).merge
        (b.messages.below (requested b language)), requested b language), w') := by
  have hm : boxMessages id language = (askLanguage id language >>= fun l => do
      let b ← box id
      return (← mergedMessages b.messages l, l)) := by
    cases language <;> rfl
  rw [hm, outcome_bind_of_ok ha, outcome_bind_of_ok (outcome_box hb)]
  rw [outcome_bind, mergedMessages, outcome_get_bind,
    outcome_bind_of_ok (outcome_reading (layered?_eq w'.heap hl hs))]
  rfl

/-! ## Answering -/

/-- Values that say the same get the same answer. -/
theorem answer_of_said? {b : Box} {r : Request} {fields : Entries} {v : Option Value}
    {e : Option CatalogNode}
    (h : (v.map CatalogNode.leaf).bind CatalogNode.said? = e.bind CatalogNode.said?) :
    answer b r fields v = answer b r fields (e.bind CatalogNode.said?) := by
  rw [← h]
  cases v with
  | none => rfl
  | some v => cases v <;> rfl

/-- An issue without a message of its own gets the answer that the merged messages give. -/
theorem outcome_message_of_boxMessages {w w' : World} {id : Nat} {b : Box} {r : Request}
    {fields : Entries} {messages : Catalog} {language : Value}
    (hf : r.issue.fields w.heap = .ok fields) (hp : preformatted? fields = none)
    (ht : (typeOf fields).isKey = true)
    (hm : outcome (boxMessages id r.language) w = (.ok (messages, language), w'))
    (hb : w'.boxes[id]? = some b) :
    outcome (message id r) w =
      outcome (answer b r fields ((messages.find? (typeOf fields)).bind
        (CatalogNode.select (genericName? (fieldOf fields))))) w' := by
  have hkey : ((fields.lookup (.str "type")).getD .null).isKey = true := ht
  rw [message, outcome_bind_of_ok (outcome_reading hf)]
  simp only [hp]
  rw [outcome_bind_of_ok hm]
  simp only [hkey, Bool.not_true, Bool.false_eq_true, if_false]
  rw [outcome_bind_of_ok (outcome_box hb)]
  rfl

end Session

end Wording
