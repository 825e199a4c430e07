import ContainerWatch.Proofs.Identity.Search

/-!
# Groups of images

The group of an image is the text between the first slash whose next slash is in the same line, and
that slash.  The images are those that fit a search pattern with a lazy group: its first match begins
at the first slash from which there is one, and the lazy group ends as soon as a slash follows, so that
what it captures is just what `betweenSlashes?` finds.
-/

namespace ContainerWatch.Identity

open Pattern Journal

/-! ## Segments -/

/-- A segment of an image between two slashes, with no slash and no line feed in it, and what stands
    in front of the first of the slashes. -/
structure Encloses (image before segment : List Char) : Prop where
  parts : ∃ after, image = before ++ '/' :: (segment ++ '/' :: after)
  plain : ∀ c ∈ segment, c ≠ '/' ∧ c ≠ '\n'

/-- The first segment of an image between two slashes. -/
structure EnclosesFirst (image before segment : List Char) : Prop where
  encloses : Encloses image before segment
  first : ∀ before' segment', Encloses image before' segment' → before.length ≤ before'.length

/-- A character that neither a slash nor the end of a line is. -/
abbrev inSegment (c : Char) : Bool := c != '/' && c != '\n'

/-- The segment that begins with a text if the text begins with a slash and its next slash is in the
    same line. -/
def segmentAt? : List Char → Option (List Char)
  | '/' :: rest =>
      if (rest.drop (rest.takeWhile inSegment).length).head? = some '/' then
        some (rest.takeWhile inSegment)
      else
        none
  | _ => none

section Segments

variable {image rest before segment : List Char} {c : Char}

theorem segmentAt?_of_ne (other : image.head? ≠ some '/') : segmentAt? image = none := by
  unfold segmentAt?
  split
  · exact absurd rfl other
  · rfl

theorem segmentAt?_eq_some_iff : segmentAt? image = some segment ↔ Encloses image [] segment := by
  constructor
  · intro found
    unfold segmentAt? at found
    split at found
    · rename_i rest
      split at found
      · rename_i slash
        obtain rfl := Option.some.inj found
        obtain ⟨after, behind⟩ := List.head?_eq_some_iff.mp slash
        refine ⟨⟨after, ?_⟩, ?_⟩
        · rw [List.nil_append, ← behind]
          rw [List.prefix_iff_eq_append.mp (List.takeWhile_prefix inSegment)]
        · intro c member
          simpa using List.mem_takeWhile_imp member
      · cases found
    · cases found
  · rintro ⟨⟨after, rfl⟩, plain⟩
    have taken : (segment ++ '/' :: after).takeWhile inSegment = segment := by
      rw [List.takeWhile_append_of_pos (by simpa using plain),
        List.takeWhile_cons_of_neg (by simp), List.append_nil]
    rw [List.nil_append, segmentAt?, taken, List.drop_left]
    rfl

theorem encloses_cons_iff {d : Char} :
    Encloses (c :: rest) (d :: before) segment ↔ c = d ∧ Encloses rest before segment := by
  constructor
  · rintro ⟨⟨after, parts⟩, plain⟩
    obtain ⟨same, parts⟩ := List.cons.inj parts
    exact ⟨same, ⟨after, parts⟩, plain⟩
  · rintro ⟨rfl, ⟨after, rfl⟩, plain⟩
    exact ⟨⟨after, rfl⟩, plain⟩

/-- What is found in an image begins with it, or is found in the rest of it. -/
theorem betweenSlashes?_cons (c : Char) (rest : List Char) :
    betweenSlashes? (c :: rest) = (segmentAt? (c :: rest)).or (betweenSlashes? rest) := by
  rw [betweenSlashes?]
  by_cases slash : c = '/'
  · subst slash
    simp only [segmentAt?, true_and]
    split <;> rfl
  · rw [if_neg (by simp [slash]), segmentAt?_of_ne (by simpa using slash), Option.none_or]

theorem betweenSlashes?_eq_none_iff :
    betweenSlashes? image = none ↔ ∀ before segment, ¬ Encloses image before segment := by
  induction image with
  | nil =>
      refine iff_of_true rfl ?_
      rintro before segment ⟨⟨after, parts⟩, -⟩
      simp at parts
  | cons c rest ih =>
      rw [betweenSlashes?_cons, Option.or_eq_none_iff, ih]
      constructor
      · rintro ⟨nothing, missed⟩ before segment encloses
        cases before with
        | nil =>
            rw [segmentAt?_eq_some_iff.mpr encloses] at nothing
            cases nothing
        | cons d before => exact missed before segment (encloses_cons_iff.mp encloses).2
      · intro nothing
        constructor
        · cases found : segmentAt? (c :: rest) with
          | none => rfl
          | some segment => exact absurd (segmentAt?_eq_some_iff.mp found) (nothing [] segment)
        · intro before segment encloses
          exact nothing (c :: before) segment (encloses_cons_iff.mpr ⟨rfl, encloses⟩)

/-- What is found in an image is the first thing that it encloses. -/
theorem betweenSlashes?_eq_some_iff :
    betweenSlashes? image = some segment ↔ ∃ before, EnclosesFirst image before segment := by
  induction image with
  | nil =>
      refine iff_of_false nofun ?_
      rintro ⟨before, ⟨⟨after, parts⟩, -⟩, -⟩
      simp at parts
  | cons c rest ih =>
      rw [betweenSlashes?_cons, Option.or_eq_some_iff, ih]
      constructor
      · rintro (found | ⟨nothing, before, encloses, first⟩)
        · exact ⟨[], segmentAt?_eq_some_iff.mp found, fun _ _ _ => Nat.zero_le _⟩
        · refine ⟨c :: before, encloses_cons_iff.mpr ⟨rfl, encloses⟩, ?_⟩
          intro before' segment' other
          cases before' with
          | nil =>
              rw [segmentAt?_eq_some_iff.mpr other] at nothing
              cases nothing
          | cons d before' =>
              exact Nat.succ_le_succ (first before' segment' (encloses_cons_iff.mp other).2)
      · rintro ⟨before, encloses, first⟩
        cases before with
        | nil => exact .inl (segmentAt?_eq_some_iff.mpr encloses)
        | cons d before =>
            obtain ⟨rfl, behind⟩ := encloses_cons_iff.mp encloses
            refine .inr ⟨?_, before, behind, ?_⟩
            · cases found : segmentAt? (c :: rest) with
              | none => rfl
              | some other =>
                  have shorter := first [] other (segmentAt?_eq_some_iff.mp found)
                  cases shorter
            · intro before' segment' other
              exact Nat.le_of_succ_le_succ
                (first (c :: before') segment' (encloses_cons_iff.mpr ⟨rfl, other⟩))

/-- In an image of one line the first thing that is enclosed is what stands between the first two
    slashes. -/
theorem enclosesFirst_of_line {after : List Char}
    (line : '\n' ∉ before ++ '/' :: (segment ++ '/' :: after)) (early : '/' ∉ before)
    (whole : '/' ∉ segment) :
    EnclosesFirst (before ++ '/' :: (segment ++ '/' :: after)) before segment := by
  refine ⟨⟨⟨after, rfl⟩, ?_⟩, ?_⟩
  · intro c member
    refine ⟨fun slash => whole (slash ▸ member), ?_⟩
    rintro rfl
    exact line (by simp [member])
  · rintro before' segment' ⟨⟨after', parts⟩, -⟩
    -- The slash behind an earlier beginning would stand in what is in front of the first slash.
    by_contra shorter
    rcases List.append_eq_append_iff.mp parts with ⟨more, rfl, -⟩ | ⟨more, rfl, behind⟩
    · exact shorter (by simp)
    · cases more with
      | nil => exact shorter (by simp)
      | cons c more =>
          obtain rfl : '/' = c := (List.cons.inj behind).1
          exact early (by simp)

end Segments

/-! ## The pattern of groups -/

/-- The text of the pattern that images with a group fit. -/
def groupSource : String := "/(.*?)/"

def slashNode : Node := .char 47

/-- As few characters of a line as possible. -/
def fewNode : Node := .repetition .lazy 0 none [.anyChar]

/-- The pattern that images with a group fit. -/
def groupPattern : Pattern where
  source := groupSource
  nodes := [slashNode, .group (some 1) {} {} [fewNode], slashNode]
  options := { unicode := true }
  least := 2

theorem compile_groupSource : Pattern.compile groupSource = .ok groupPattern := by cbv

theorem offers_fewNode (entered : Nat) :
    Offers entered entered (matchSequence { unicode := true } false .unknown [fewNode])
      (fewEnds inLine) := by
  have few : Offers entered entered (matchNode { unicode := true } false .unknown fewNode)
      (fewEnds inLine) := offers_matchFewChars entered ⟨inLine, false⟩ .unknown
  simpa using offers_cons few (offers_nil entered { unicode := true } .unknown)

theorem offers_fewGroup (number : Nat) (ahead : Lead) :
    Offers (2 * number) (2 * number + 2)
      (matchNode { unicode := true } false ahead (.group (some (number + 1)) {} {} [fewNode]))
      (groupEnds (fewEnds inLine)) := offers_group (offers_fewNode _)

/-- The ends of a slash behind a place. -/
def slashEnds (start : End) : List End :=
  (charEnds (· == '/') start).flatMap fun behind => [behind]

/-- The ends of a group and a slash behind a place. -/
def pathEnds (start : End) : List End := (groupEnds (fewEnds inLine) start).flatMap slashEnds

/-- The ends of the whole pattern. -/
def enclosedEnds (start : End) : List End := (charEnds (· == '/') start).flatMap pathEnds

/-- The pattern ends where its parts end one after the other. -/
theorem offers_groupPattern :
    Offers 0 2 (matchSequence groupPattern.options false .unknown groupPattern.nodes)
      enclosedEnds :=
  offers_cons (offers_charNode 0 _ '/') <| offers_cons (offers_fewGroup 0 _) <|
    offers_cons (offers_charNode 2 _ '/') (offers_nil 2 _ _)

theorem head?_slashEnds (marks : Marks) (place : Place) :
    (slashEnds (marks, place)).head?
      = if place.after.head? = some '/' then some (marks, place.forward 1) else none := by
  rw [slashEnds, head?_charEnds]
  rfl

/-- Among the ways to pass some characters of a line the first that a slash follows is that to the next
    slash, if it is in the line. -/
theorem findSome?_fewEnds {α : Type} (marks : Marks) (place : Place) (answer : End → α) :
    (fewEnds inLine (marks, place)).findSome? (fun behind =>
        if behind.2.after.head? = some '/' then some (answer behind) else none)
      = if (place.after.drop (place.after.takeWhile inSegment).length).head? = some '/' then
          some (answer (marks, place.forward (place.after.takeWhile inSegment).length))
        else none := by
  generalize letters : place.after = text
  induction text generalizing place with
  | nil =>
      rw [fewEnds_of_rejected (by simp [letters])]
      simp [letters]
  | cons c rest ih =>
      have behind : (place.forward 1).after = rest := by simp [letters]
      by_cases slash : c = '/'
      · subst slash
        rw [fewEnds_of_accepted letters rfl]
        simp [letters]
      · by_cases ended : c = '\n'
        · subst ended
          rw [fewEnds_of_rejected (by simp [letters])]
          simp [letters]
        · have accepted : inLine c = true := by simpa using ended
          have within : inSegment c = true := by simp [slash, ended]
          rw [fewEnds_of_accepted letters accepted, List.findSome?_cons, ih _ behind,
            List.takeWhile_cons_of_pos within]
          simp [letters, slash, Place.forward_forward, Nat.add_comm 1]

/-- Where the whole pattern first ends, by the segment. -/
def enclosedEnd (place : Place) (segment : List Char) : End :=
  let first := place.forward 1
  let last := first.forward segment.length
  ([some first.index, some last.index], last.forward 1)

/-- The pattern first ends behind the segment that begins here, if one does. -/
theorem head?_enclosedEnds (place : Place) :
    (enclosedEnds ([], place)).head? = (segmentAt? place.after).map (enclosedEnd place) := by
  rw [enclosedEnds, head?_charEnds]
  by_cases slash : place.after.head? = some '/'
  · obtain ⟨rest, letters⟩ := List.head?_eq_some_iff.mp slash
    have behind : (place.forward 1).after = rest := by simp [letters]
    rw [if_pos slash, pathEnds, List.head?_flatMap, groupEnds, List.findSome?_map]
    simp only [Function.comp_def, head?_slashEnds]
    rw [findSome?_fewEnds _ _ fun last => (last.1 ++ [some last.2.index], last.2.forward 1), behind,
      letters, segmentAt?]
    split
    · rw [Option.map_some, enclosedEnd]
      rfl
    · rfl
  · rw [if_neg slash, segmentAt?_of_ne slash]
    rfl

theorem captured?_enclosedEnd {place : Place} {segment after : List Char} (counts : place.Counts)
    (letters : place.after = '/' :: (segment ++ '/' :: after)) :
    (Matching.ofEnd (enclosedEnd place segment)).captured? 1 = some segment := by
  have text : (Matching.ofEnd (enclosedEnd place segment)).place.text = place.text := by
    simp only [Matching.ofEnd, enclosedEnd, Place.text_forward]
  rw [captured?_of_limits (place.index + 1) segment.length rfl rfl, text,
    Place.text_between counts, letters]
  simp

theorem two_le_length {image segment : List Char} (found : betweenSlashes? image = some segment) :
    2 ≤ image.length := by
  obtain ⟨before, ⟨⟨after, rfl⟩, -⟩, -⟩ := betweenSlashes?_eq_some_iff.mp found
  simp only [List.length_append, List.length_cons]
  omega

/-- From a place on the search finds the group of the rest of the image. -/
theorem captured?_searchFrom {count : Nat} {place : Place} (counts : place.Counts)
    (enough : place.after.length ≤ count + 1) :
    (searchFrom (matchSequence groupPattern.options false .unknown groupPattern.nodes) .unknown
        count place).map (·.captured? 1)
      = (betweenSlashes? place.after).map some := by
  induction count generalizing place with
  | zero =>
      cases found : betweenSlashes? place.after with
      | none => rfl
      | some segment =>
          have long := two_le_length found
          omega
  | succ count ih =>
      rw [searchFrom_succ offers_groupPattern, head?_enclosedEnds]
      cases letters : place.after with
      | nil =>
          rw [Place.next?_of_end letters]
          rfl
      | cons c rest =>
          have behind : (place.forward 1).after = rest := by simp [letters]
          rw [Place.next?_of_after letters, betweenSlashes?_cons]
          cases found : segmentAt? (c :: rest) with
          | none =>
              have next : (place.forward 1).Counts := counts.forward (by simp [letters])
              have fewer : (place.forward 1).after.length ≤ count + 1 := by
                rw [letters, List.length_cons] at enough
                rw [behind]
                omega
              have going := ih next fewer
              rw [behind] at going
              exact going
          | some segment =>
              obtain ⟨⟨after, parts⟩, -⟩ := segmentAt?_eq_some_iff.mp found
              have captured := captured?_enclosedEnd counts (letters.trans parts)
              simp [captured]

/-- Where the pattern is first found in an image, it captures the group of the image. -/
theorem captured?_search (image : List Char) :
    (search groupPattern.options groupPattern.least groupPattern.nodes image).map (·.captured? 1)
      = (betweenSlashes? image).map some := by
  have unknown : startLead groupPattern.options groupPattern.least groupPattern.nodes
      = .unknown := rfl
  have places : startCount groupPattern.options groupPattern.least image.length groupPattern.nodes
      = image.length + 1 := rfl
  rw [search, unknown, places]
  by_cases short : image.length < groupPattern.least
  · rw [if_pos short]
    cases found : betweenSlashes? image with
    | none => rfl
    | some segment => exact absurd (two_le_length found) (Nat.not_le_of_lt short)
  · rw [if_neg short]
    have counts : (Place.start image).Counts := rfl
    exact captured?_searchFrom counts (Nat.le_succ_of_le (Nat.le_succ image.length))

/-! ## Groups of containers -/

section Groups

variable {labels : Entries} {image : String}

theorem groupOf_of_label {label : Value} (named : labels.getNull groupLabel = label)
    (truthy : label.isTruthy = true) (image : Value) : groupOf labels image = ⟨[], .ok label⟩ := by
  subst named
  rw [groupOf, if_pos truthy]
  rfl

theorem groupOf_of_unlabelled (unnamed : (labels.getNull groupLabel).isTruthy = false)
    (image : Value) : groupOf labels image = groupOfImage image := by
  rw [groupOf, if_neg (by simp [unnamed])]

theorem groupOfImage_of_enclosesFirst {before segment : List Char}
    (first : EnclosesFirst image.toList before segment) :
    groupOfImage (.text image) = ⟨[], .ok (.text (String.ofList segment))⟩ := by
  have found := betweenSlashes?_eq_some_iff.mpr ⟨before, first⟩
  simp only [groupOfImage, found]
  rfl

/-- An image that encloses nothing names no group, which is noted. -/
theorem groupOfImage_of_nothing
    (nothing : ∀ before segment, ¬ Encloses image.toList before segment) :
    groupOfImage (.text image)
      = ⟨[.plain .debug .identity ("no group for " ++ image)], .ok (.text "")⟩ := by
  have missed := betweenSlashes?_eq_none_iff.mpr nothing
  simp only [groupOfImage, missed]
  rfl

theorem exists_enclosesFirst {image before segment : List Char}
    (encloses : Encloses image before segment) :
    ∃ before segment, EnclosesFirst image before segment := by
  cases found : betweenSlashes? image with
  | none => exact absurd encloses (betweenSlashes?_eq_none_iff.mp found before segment)
  | some segment =>
      obtain ⟨before, first⟩ := betweenSlashes?_eq_some_iff.mp found
      exact ⟨before, segment, first⟩

end Groups

/-- A label that is not empty names the group of a container, and nothing is noted.  Otherwise the group
    is the first thing that the image encloses between two slashes in one line, which may be empty and
    is not noted either; in an image of one line it stands between the first two slashes.  An image
    that encloses nothing leaves the group empty, and just that is noted.  This is what comes of
    searching the image for the pattern of groups: it is found exactly where something is enclosed, and
    then it captures the group. -/
theorem groupOf_meets_specification (labels : Entries) (image : String) :
    (∀ label, labels.get? groupLabel = some (.text label) → label ≠ "" →
      groupOf labels (.text image) = ⟨[], .ok (.text label)⟩) ∧
    (labels.get? groupLabel = none ∨ labels.get? groupLabel = some (.text "") →
      (∀ before segment, EnclosesFirst image.toList before segment →
        groupOf labels (.text image) = ⟨[], .ok (.text (String.ofList segment))⟩) ∧
      ((∀ before segment, ¬ Encloses image.toList before segment) →
        groupOf labels (.text image)
          = ⟨[.plain .debug .identity ("no group for " ++ image)], .ok (.text "")⟩)) ∧
    (∀ before segment, Encloses image.toList before segment →
      ∃ before segment, EnclosesFirst image.toList before segment) ∧
    (∀ before segment after, image.toList = before ++ '/' :: (segment ++ '/' :: after) →
      '\n' ∉ image.toList → '/' ∉ before → '/' ∉ segment →
        EnclosesFirst image.toList before segment) ∧
    ∃ pattern, Pattern.compile groupSource = .ok pattern ∧
      (search pattern.options pattern.least pattern.nodes image.toList = none ↔
        ∀ before segment, ¬ Encloses image.toList before segment) ∧
      ∀ segment,
        (search pattern.options pattern.least pattern.nodes image.toList).map (·.captured? 1)
            = some (some segment) ↔
          ∃ before, EnclosesFirst image.toList before segment := by
  refine ⟨?_, ?_, fun _ _ => exists_enclosesFirst, ?_, groupPattern, compile_groupSource, ?_, ?_⟩
  · intro label present filled
    have named : labels.getNull groupLabel = .text label := by rw [Entries.getNull, present]; rfl
    exact groupOf_of_label named (by simp [Value.isTruthy, filled]) _
  · intro absent
    have unnamed : (labels.getNull groupLabel).isTruthy = false := by
      rw [Entries.getNull]
      rcases absent with absent | absent <;> rw [absent] <;> rfl
    rw [groupOf_of_unlabelled unnamed]
    exact ⟨fun _ _ => groupOfImage_of_enclosesFirst, groupOfImage_of_nothing⟩
  · intro before segment after parts line early whole
    rw [parts] at line ⊢
    exact enclosesFirst_of_line line early whole
  · rw [← betweenSlashes?_eq_none_iff, ← Option.map_eq_none_iff (f := (·.captured? 1)),
      captured?_search, Option.map_eq_none_iff]
  · intro segment
    rw [captured?_search, ← betweenSlashes?_eq_some_iff]
    simp [Option.map_eq_some_iff]

/-- The first slash of the image has no other one in its line, and between the next two there is
    nothing. -/
theorem groupOf_of_second_line :
    (∃ before, EnclosesFirst "a/b\n//c/d".toList before []) ∧
      groupOf [(.text groupLabel, .text "")] (.text "a/b\n//c/d") = ⟨[], .ok (.text "")⟩ := by
  have found : ∃ before, EnclosesFirst "a/b\n//c/d".toList before [] :=
    betweenSlashes?_eq_some_iff.mp (by decide)
  obtain ⟨before, first⟩ := found
  have unnamed : Entries.get? [(.text groupLabel, .text "")] groupLabel = some (.text "") := rfl
  have named := (groupOf_meets_specification [(.text groupLabel, .text "")] "a/b\n//c/d").2.1
    (.inr unnamed)
  exact ⟨⟨before, first⟩, named.1 before [] first⟩

end ContainerWatch.Identity
