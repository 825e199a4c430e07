import ContainerWatch.Pattern

/-!
# Flaws of patterns

A flaw is what a check finds in a part of a pattern or inside it.  It is found in a sequence if it is
found in one of its parts, and whatever is found is an answer of the check.  A check that looks at looks
behind only finds nothing in a pattern without them, and the ways in which the reader puts alternatives
and sequences together bring none in.
-/

namespace ContainerWatch.Pattern

section Checks

variable {check : Node → Option Cause} {cause : Cause}

theorem sequenceFlaw?_eq_none_iff {nodes : List Node} :
    sequenceFlaw? check nodes = none ↔ ∀ node ∈ nodes, node.flaw? check = none := by
  induction nodes with
  | nil => simp [sequenceFlaw?]
  | cons node nodes ih => simp [sequenceFlaw?, ih]

theorem branchFlaw?_eq_none_iff {alternatives : List (List Node)} :
    branchFlaw? check alternatives = none ↔
      ∀ nodes ∈ alternatives, sequenceFlaw? check nodes = none := by
  induction alternatives with
  | nil => simp [branchFlaw?]
  | cons nodes alternatives ih => simp [branchFlaw?, ih]

/-- What a check answers to a part comes before whatever is inside it. -/
theorem flaw?_of_check {node : Node} (here : check node = some cause) :
    node.flaw? check = some cause := by
  cases node with
  | condition number yes no => cases no <;> simp [Node.flaw?, here]
  | _ => simp [Node.flaw?, here]

mutual

/-- What is found in a part is an answer of the check. -/
theorem exists_check_of_flaw? :
    ∀ node : Node, node.flaw? check = some cause → ∃ inner, check inner = some cause
  | node, found => by
      cases here : check node with
      | some answer =>
          rw [flaw?_of_check here] at found
          exact ⟨node, here.trans found⟩
      | none =>
          cases node with
          | group _ _ _ body | atomic body | lookAhead _ body | lookBehind _ _ body
          | repetition _ _ _ body =>
              simp only [Node.flaw?, here, Option.none_or] at found
              exact exists_check_of_sequenceFlaw? body found
          | branch alternatives =>
              simp only [Node.flaw?, here, Option.none_or] at found
              exact exists_check_of_branchFlaw? alternatives found
          | condition number yes no =>
              cases no with
              | none =>
                  simp only [Node.flaw?, here, Option.none_or, Option.or_none] at found
                  exact exists_check_of_sequenceFlaw? yes found
              | some no =>
                  simp only [Node.flaw?, here, Option.none_or, Option.or_eq_some_iff] at found
                  rcases found with first | ⟨-, second⟩
                  · exact exists_check_of_sequenceFlaw? yes first
                  · exact exists_check_of_sequenceFlaw? no second
          | char _ | notChar _ | anyChar | set _ _ | anchor _ | reference _ =>
              simp [Node.flaw?, here] at found

/-- What is found in a sequence is an answer of the check. -/
theorem exists_check_of_sequenceFlaw? :
    ∀ nodes : List Node, sequenceFlaw? check nodes = some cause → ∃ inner, check inner = some cause
  | [], found => by cases found
  | node :: nodes, found => by
      rw [sequenceFlaw?, Option.or_eq_some_iff] at found
      rcases found with first | ⟨-, later⟩
      · exact exists_check_of_flaw? node first
      · exact exists_check_of_sequenceFlaw? nodes later

/-- What is found in alternatives is an answer of the check. -/
theorem exists_check_of_branchFlaw? :
    ∀ alternatives : List (List Node), branchFlaw? check alternatives = some cause →
      ∃ inner, check inner = some cause
  | [], found => by cases found
  | nodes :: alternatives, found => by
      rw [branchFlaw?, Option.or_eq_some_iff] at found
      rcases found with first | ⟨-, later⟩
      · exact exists_check_of_sequenceFlaw? nodes first
      · exact exists_check_of_branchFlaw? alternatives later

end

end Checks

/-! ## Looks behind -/

/-- No look behind in a part reaches so far that it is taken for something else. -/
def Node.IsNear (node : Node) : Prop := node.flaw? reachCheck = none

/-- No look behind in a sequence of parts reaches too far. -/
def AllNear (nodes : List Node) : Prop := ∀ node ∈ nodes, node.IsNear

section Near

variable {node : Node} {nodes body : List Node} {alternatives : List (List Node)}

theorem sequenceFlaw?_reachCheck_eq_none_iff :
    sequenceFlaw? reachCheck nodes = none ↔ AllNear nodes := sequenceFlaw?_eq_none_iff

@[simp] theorem isNear_char (code : Nat) : (Node.char code).IsNear := by
  simp [Node.IsNear, Node.flaw?, reachCheck]

@[simp] theorem isNear_notChar (code : Nat) : (Node.notChar code).IsNear := by
  simp [Node.IsNear, Node.flaw?, reachCheck]

@[simp] theorem isNear_anyChar : Node.anyChar.IsNear := by
  simp [Node.IsNear, Node.flaw?, reachCheck]

@[simp] theorem isNear_set (negated : Bool) (items : List ClassItem) :
    (Node.set negated items).IsNear := by simp [Node.IsNear, Node.flaw?, reachCheck]

@[simp] theorem isNear_anchor (at_ : Anchor) : (Node.anchor at_).IsNear := by
  simp [Node.IsNear, Node.flaw?, reachCheck]

@[simp] theorem isNear_reference (number : Nat) : (Node.reference number).IsNear := by
  simp [Node.IsNear, Node.flaw?, reachCheck]

@[simp] theorem isNear_group_iff (number : Option Nat) (on off : Options) :
    (Node.group number on off body).IsNear ↔ AllNear body := by
  simp [Node.IsNear, Node.flaw?, reachCheck, sequenceFlaw?_reachCheck_eq_none_iff]

@[simp] theorem isNear_atomic_iff : (Node.atomic body).IsNear ↔ AllNear body := by
  simp [Node.IsNear, Node.flaw?, reachCheck, sequenceFlaw?_reachCheck_eq_none_iff]

@[simp] theorem isNear_lookAhead_iff (negated : Bool) :
    (Node.lookAhead negated body).IsNear ↔ AllNear body := by
  simp [Node.IsNear, Node.flaw?, reachCheck, sequenceFlaw?_reachCheck_eq_none_iff]

@[simp] theorem isNear_repetition_iff (greed : Greed) (least : Nat) (greatest : Option Nat) :
    (Node.repetition greed least greatest body).IsNear ↔ AllNear body := by
  simp [Node.IsNear, Node.flaw?, reachCheck, sequenceFlaw?_reachCheck_eq_none_iff]

@[simp] theorem isNear_branch_iff :
    (Node.branch alternatives).IsNear ↔ ∀ nodes ∈ alternatives, AllNear nodes := by
  simp [Node.IsNear, Node.flaw?, reachCheck, branchFlaw?_eq_none_iff,
    sequenceFlaw?_reachCheck_eq_none_iff]

@[simp] theorem isNear_condition_iff (number : Nat) (no : Option (List Node)) :
    (Node.condition number body no).IsNear ↔ AllNear body ∧ ∀ nodes ∈ no, AllNear nodes := by
  cases no <;>
    simp [Node.IsNear, Node.flaw?, reachCheck, sequenceFlaw?_reachCheck_eq_none_iff]

@[simp] theorem allNear_nil : AllNear [] := List.forall_mem_nil _

@[simp] theorem allNear_cons_iff : AllNear (node :: nodes) ↔ node.IsNear ∧ AllNear nodes :=
  List.forall_mem_cons

@[simp] theorem allNear_singleton_iff : AllNear [node] ↔ node.IsNear := List.forall_mem_singleton

@[simp] theorem allNear_append_iff : AllNear (nodes ++ body) ↔ AllNear nodes ∧ AllNear body :=
  List.forall_mem_append

@[simp] theorem allNear_reverse_iff : AllNear nodes.reverse ↔ AllNear nodes := by simp [AllNear]

/-- The body of a part that is repeated is as near as the part. -/
theorem allNear_repeated (near : node.IsNear) : AllNear (repeated node) := by
  unfold repeated
  split
  · split
    · exact (isNear_group_iff _ _ _).mp near
    · exact allNear_singleton_iff.mpr near
  · exact allNear_singleton_iff.mpr near

/-- The bodies that stand for groups are as near as the groups. -/
theorem allNear_unwrapped (near : AllNear nodes) : AllNear (unwrapped nodes) := by
  intro inner member
  obtain ⟨node, among, within⟩ := List.mem_flatMap.mp member
  -- What stands for a part is what is repeated where the part is.
  exact allNear_repeated (near node among) inner within

/-- What all alternatives begin with is near if they are, and so is what is left of them. -/
theorem allNear_factored (fuel : Nat) (near : ∀ nodes ∈ alternatives, AllNear nodes) :
    AllNear (factored fuel alternatives).1 ∧
      ∀ nodes ∈ (factored fuel alternatives).2, AllNear nodes := by
  induction fuel generalizing alternatives with
  | zero => exact ⟨allNear_nil, near⟩
  | succ fuel ih =>
      rw [factored]
      cases common : commonStart? alternatives with
      | none => exact ⟨allNear_nil, near⟩
      | some node =>
          have tails : ∀ nodes ∈ alternatives.map List.tail, AllNear nodes := by
            intro tail member
            obtain ⟨nodes, among, rfl⟩ := List.mem_map.mp member
            exact fun node inside => near nodes among node (List.mem_of_mem_tail inside)
          have first : node.IsNear := by
            unfold commonStart? at common
            split at common
            · split at common
              · cases common
                exact near _ List.mem_cons_self _ List.mem_cons_self
              · cases common
            · cases common
          obtain ⟨start, rest⟩ := ih tails
          exact ⟨allNear_cons_iff.mpr ⟨first, start⟩, rest⟩

/-- Alternatives that are put together are as near as they are one by one. -/
theorem allNear_alternation (near : ∀ nodes ∈ alternatives, AllNear nodes) :
    AllNear (alternation alternatives) := by
  unfold alternation
  split
  · exact near _ (List.mem_singleton_self _)
  · obtain ⟨start, rest⟩ := allNear_factored (alternatives.headD []).length near
    dsimp only
    split
    · exact allNear_append_iff.mpr ⟨start, allNear_singleton_iff.mpr (isNear_set _ _)⟩
    · exact allNear_append_iff.mpr ⟨start, allNear_singleton_iff.mpr (isNear_branch_iff.mpr rest)⟩

end Near

end ContainerWatch.Pattern
