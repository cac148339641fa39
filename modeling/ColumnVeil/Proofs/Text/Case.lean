import ColumnVeil.Text.Case

/-!
# Letters that lower case changes

Lower case leaves a character alone, wherever it stands, if it is settled: neither a capital
letter with a partner nor a title-case letter.  A title-case letter is a digraph, or a letter with
an iota beside it, of which only the first part is a capital; it has no *Uppercase* property and
yet a lower-case partner.

What is in lower case is settled, so lower case is idempotent (`lowercase_lowercase`), and a text
is in lower case exactly if all its characters are settled (`lowercase_eq_self_iff`).

What the tables say of single code points is checked by evaluation, one run against those that
share its span.
-/

namespace ColumnVeil.Text

/-! ## Runs of code points -/

/-- The code points of a run. -/
def codesOf (run : Nat × Nat × Nat) : List Nat :=
  (List.range ((run.2.1 - run.1) / run.2.2 + 1)).map fun index => run.1 + index * run.2.2

/-- Whether a code point is one of a run. -/
def inRun (run : Nat × Nat × Nat) (code : Nat) : Bool :=
  run.1 ≤ code && code ≤ run.2.1 && (code - run.1) % run.2.2 == 0

theorem inRuns_eq_true_iff {runs : List (Nat × Nat × Nat)} {code : Nat} :
    inRuns runs code = true ↔ ∃ run ∈ runs, inRun run code = true :=
  List.any_eq_true

theorem bounds_of_inRun {run : Nat × Nat × Nat} {code : Nat} (member : inRun run code = true) :
    run.1 ≤ code ∧ code ≤ run.2.1 := by
  simp only [inRun, Bool.and_eq_true, decide_eq_true_eq] at member
  exact member.1

theorem mem_codesOf {run : Nat × Nat × Nat} {code : Nat} (member : inRun run code = true) :
    code ∈ codesOf run := by
  obtain ⟨above, below⟩ := bounds_of_inRun member
  simp only [inRun, Bool.and_eq_true, beq_iff_eq] at member
  refine List.mem_map.mpr ⟨(code - run.1) / run.2.2, List.mem_range.mpr ?_, ?_⟩
  · exact Nat.lt_succ_of_le (Nat.div_le_div_right (by omega))
  · rw [Nat.div_mul_cancel (Nat.dvd_of_mod_eq_zero member.2)]
    omega

/-- The runs that share a span.  Only they can hold code points of it. -/
def near (runs : List (Nat × Nat × Nat)) (first last : Nat) : List (Nat × Nat × Nat) :=
  runs.filter fun run => Nat.ble first run.2.1 && Nat.ble run.1 last

theorem mem_near {runs : List (Nat × Nat × Nat)} {run : Nat × Nat × Nat} {first last code : Nat}
    (above : first ≤ code) (below : code ≤ last) (listed : run ∈ runs)
    (member : inRun run code = true) : run ∈ near runs first last := by
  obtain ⟨begun, ended⟩ := bounds_of_inRun member
  refine List.mem_filter.mpr ⟨listed, ?_⟩
  simp only [Nat.ble_eq, Bool.and_eq_true]
  omega

/-! ## Title case -/

/-- Runs of the title-case letters, general category *Lt*: first, last, step. -/
def titlecaseRuns : List (Nat × Nat × Nat) :=
  [(0x1C5, 0x1CB, 3), (0x1F2, 0x1F2, 1), (0x1F88, 0x1F8F, 1), (0x1F98, 0x1F9F, 1),
    (0x1FA8, 0x1FAF, 1), (0x1FBC, 0x1FBC, 1), (0x1FCC, 0x1FCC, 1), (0x1FFC, 0x1FFC, 1)]

/-- A title-case letter. -/
def isTitlecase (character : Char) : Bool :=
  inRuns titlecaseRuns character.toNat

/-! ## The table of lower-case partners -/

/-- The code points of an entry of the table, without the distance to their partners. -/
def place (entry : Nat × Nat × Nat × Int) : Nat × Nat × Nat :=
  (entry.1, entry.2.1, entry.2.2.1)

/-- The partner of a code point by an entry of the table. -/
def partner (entry : Nat × Nat × Nat × Int) (code : Nat) : Nat :=
  Int.toNat (code + entry.2.2.2)

/-- The letters that the table of lower case leads to are characters, and none of them is zero. -/
theorem lowerRuns_valid : ∀ run ∈ lowerRuns, 0 < (run.1 : Int) + run.2.2.2 ∧
    ((run.2.1 : Int) + run.2.2.2 < 0xD800 ∨
      0xDFFF < (run.1 : Int) + run.2.2.2 ∧ (run.2.1 : Int) + run.2.2.2 < 0x110000) := by
  decide +kernel

/-- Whatever has a partner is a capital letter or a title-case letter. -/
theorem lowerRuns_marked : (lowerRuns.all fun entry => (codesOf (place entry)).all fun code =>
    (near (uppercaseRuns ++ titlecaseRuns) entry.1 entry.2.1).any fun run => inRun run code) =
      true := by
  decide +kernel

/-- No partner has a partner again, and none is a capital I with a dot. -/
theorem lowerRuns_settled : (lowerRuns.all fun entry =>
    (near ((0x130, 0x130, 1) :: lowerRuns.map place) (partner entry entry.1)
        (partner entry entry.2.1)).all fun run =>
      (codesOf (place entry)).all fun code => !inRun run (partner entry code)) = true := by
  decide +kernel

/-- Every title-case letter has a partner. -/
theorem titlecaseRuns_lowered : ∀ run ∈ titlecaseRuns, ∀ code ∈ codesOf run,
    lowerChar (Char.ofNat code) ≠ Char.ofNat code := by
  decide +kernel

section Entries

variable {entry : Nat × Nat × Nat × Int} {code : Nat}

theorem isValidChar_partner (listed : entry ∈ lowerRuns)
    (member : inRun (place entry) code = true) :
    0 < partner entry code ∧ (partner entry code).isValidChar := by
  have valid := lowerRuns_valid entry listed
  obtain ⟨above, below⟩ := bounds_of_inRun member
  simp only [place] at above below
  unfold Nat.isValidChar partner
  omega

theorem marked_of_mem_lowerRuns (listed : entry ∈ lowerRuns)
    (member : inRun (place entry) code = true) :
    inRuns uppercaseRuns code = true ∨ inRuns titlecaseRuns code = true := by
  have checked := List.all_eq_true.mp lowerRuns_marked entry listed
  obtain ⟨run, shared, inside⟩ := List.any_eq_true.mp
    (List.all_eq_true.mp checked code (mem_codesOf member))
  rcases List.mem_append.mp (List.mem_filter.mp shared).1 with upper | title
  · exact Or.inl (inRuns_eq_true_iff.mpr ⟨run, upper, inside⟩)
  · exact Or.inr (inRuns_eq_true_iff.mpr ⟨run, title, inside⟩)

theorem inRun_partner (listed : entry ∈ lowerRuns) (member : inRun (place entry) code = true)
    {run : Nat × Nat × Nat} (settled : run ∈ (0x130, 0x130, 1) :: lowerRuns.map place) :
    inRun run (partner entry code) = false := by
  have checked := List.all_eq_true.mp lowerRuns_settled entry listed
  obtain ⟨above, below⟩ := bounds_of_inRun member
  simp only [place] at above below
  rw [Bool.eq_false_iff]
  intro inside
  -- The partners of a run lie between those of its ends.
  have low : partner entry entry.1 ≤ partner entry code := by
    simp only [partner]
    omega
  have high : partner entry code ≤ partner entry entry.2.1 := by
    simp only [partner]
    omega
  have shared := mem_near low high settled inside
  have apart := List.all_eq_true.mp (List.all_eq_true.mp checked run shared) code
    (mem_codesOf member)
  rw [inside] at apart
  cases apart

end Entries

/-! ## Lower case of one character -/

/-- The partner of a character by the table, ASCII included. -/
def tabled (character : Char) : Char :=
  match lowerRuns.find? fun entry => inRun (place entry) character.toNat with
  | some entry => Char.ofNat (partner entry character.toNat)
  | none => character

theorem lowerChar_ascii :
    ∀ code < 128, lowerChar (Char.ofNat code) = tabled (Char.ofNat code) := by
  decide +kernel

theorem isUppercase_ascii :
    ∀ code < 128, isUppercase (Char.ofNat code) = inRuns uppercaseRuns code := by
  decide +kernel

theorem lowerChar_eq_tabled (character : Char) : lowerChar character = tabled character := by
  by_cases ascii : character.toNat < 128
  · have checked := lowerChar_ascii character.toNat ascii
    rwa [Char.ofNat_toNat] at checked
  · unfold lowerChar tabled
    rw [if_neg ascii]
    dsimp only
    split
    · rename_i first last step distance found
      have same : (lowerRuns.find? fun entry => inRun (place entry) character.toNat) =
          some (first, last, step, distance) := found
      rw [same]
      rfl
    · rename_i absent
      have same : (lowerRuns.find? fun entry => inRun (place entry) character.toNat) = none :=
        absent
      rw [same]

theorem isUppercase_eq (character : Char) :
    isUppercase character = inRuns uppercaseRuns character.toNat := by
  by_cases ascii : character.toNat < 128
  · have checked := isUppercase_ascii character.toNat ascii
    rwa [Char.ofNat_toNat] at checked
  · simp only [isUppercase, if_neg ascii]

/-- A character has no partner, or it is one of a run and becomes its partner by that run. -/
theorem lowerChar_cases (character : Char) :
    (lowerChar character = character ∧
      ∀ entry ∈ lowerRuns, inRun (place entry) character.toNat = false) ∨
    ∃ entry ∈ lowerRuns, inRun (place entry) character.toNat = true ∧
      (lowerChar character).toNat = partner entry character.toNat := by
  rw [lowerChar_eq_tabled]
  unfold tabled
  split
  · rename_i entry found
    have listed := List.mem_of_find?_eq_some found
    have member := List.find?_some found
    refine Or.inr ⟨entry, listed, member, ?_⟩
    show (Char.ofNat (partner entry character.toNat)).toNat = _
    rw [Char.ofNat, dif_pos (isValidChar_partner listed member).2]
    rfl
  · rename_i missed
    refine Or.inl ⟨rfl, fun entry listed => ?_⟩
    exact Bool.eq_false_iff.mpr (List.find?_eq_none.mp missed entry listed)

/-! ## Settled characters -/

/-- Lower case leaves the character alone, wherever it stands. -/
def Settled (character : Char) : Prop :=
  character ≠ '\u0130' ∧ lowerChar character = character

instance (character : Char) : Decidable (Settled character) :=
  inferInstanceAs (Decidable (_ ∧ _))

/-- A capital sigma has a partner, whichever of the two forms it takes. -/
theorem Settled.ne_sigma {character : Char} (settled : Settled character) :
    character ≠ '\u03A3' := by
  rintro rfl
  revert settled
  decide +kernel

theorem settled_lowerChar {character : Char} (other : character ≠ '\u0130') :
    Settled (lowerChar character) := by
  rcases lowerChar_cases character with ⟨alone, -⟩ | ⟨entry, listed, member, becomes⟩
  · rw [Settled, alone]
    exact ⟨other, alone⟩
  · constructor
    · intro dotted
      have apart := inRun_partner listed member (List.mem_cons_self ..)
      rw [← becomes, dotted] at apart
      exact absurd apart (by decide)
    · rcases lowerChar_cases (lowerChar character) with ⟨alone, -⟩ | ⟨next, known, again, -⟩
      · exact alone
      · have apart := inRun_partner listed member
          (List.mem_cons_of_mem _ (List.mem_map_of_mem known))
        rw [← becomes, again] at apart
        cases apart

/-- What is neither a capital nor a title-case letter is settled. -/
theorem settled_of_unmarked {character : Char} (small : isUppercase character = false)
    (untitled : isTitlecase character = false) : Settled character := by
  constructor
  · rintro rfl
    revert small
    decide +kernel
  · rcases lowerChar_cases character with ⟨alone, -⟩ | ⟨entry, listed, member, -⟩
    · exact alone
    · rw [isUppercase_eq] at small
      rw [isTitlecase] at untitled
      have marked := marked_of_mem_lowerRuns listed member
      simp only [small, untitled, Bool.false_eq_true, or_self] at marked

theorem not_settled_of_titlecase {character : Char} (title : isTitlecase character = true) :
    ¬ Settled character := by
  rintro ⟨-, alone⟩
  obtain ⟨run, listed, member⟩ := inRuns_eq_true_iff.mp title
  have lowered := titlecaseRuns_lowered run listed character.toNat (mem_codesOf member)
  rw [Char.ofNat_toNat] at lowered
  exact lowered alone

/-! ## Lower case of a text -/

theorem lowerFrom_of_settled {characters : List Char}
    (settled : ∀ character ∈ characters, Settled character) (before : List Char) :
    lowerFrom before characters = characters := by
  induction characters generalizing before with
  | nil => rfl
  | cons character rest inductionHypothesis =>
      obtain ⟨here, later⟩ := List.forall_mem_cons.mp settled
      rw [lowerFrom, if_neg here.ne_sigma, if_neg here.1, here.2, inductionHypothesis later]
      rfl

/-- Whatever stands around a capital sigma, lower case leaves only settled characters. -/
theorem settled_of_mem_lowerFrom {before characters : List Char} {character : Char}
    (member : character ∈ lowerFrom before characters) : Settled character := by
  induction characters generalizing before with
  | nil => cases member
  | cons first rest inductionHypothesis =>
      rw [lowerFrom] at member
      rcases List.mem_append.mp member with here | later
      · split at here
        · have forms : character = '\u03C2' ∨ character = '\u03C3' := by
            split at here
            · exact Or.inl (List.mem_singleton.mp here)
            · exact Or.inr (List.mem_singleton.mp here)
          rcases forms with rfl | rfl
          · decide +kernel
          · decide +kernel
        · split at here
          · have parts : character = 'i' ∨ character = '\u0307' := by
              simpa only [List.mem_cons, List.not_mem_nil, or_false] using here
            rcases parts with rfl | rfl
            · decide +kernel
            · decide +kernel
          · rename_i other
            rw [List.mem_singleton.mp here]
            exact settled_lowerChar other
      · exact inductionHypothesis later

theorem toList_lowercase (text : String) :
    (lowercase text).toList = lowerFrom [] text.toList := by
  rw [lowercase, String.toList_ofList]

/-- A text is in lower case exactly if all its characters are settled. -/
theorem lowercase_eq_self_iff {text : String} :
    lowercase text = text ↔ ∀ character ∈ text.toList, Settled character := by
  constructor
  · intro same character member
    rw [← same, toList_lowercase] at member
    exact settled_of_mem_lowerFrom member
  · intro settled
    rw [lowercase, lowerFrom_of_settled settled, String.ofList_toList]

/-- Lower case is in lower case. -/
theorem lowercase_lowercase (text : String) : lowercase (lowercase text) = lowercase text := by
  refine lowercase_eq_self_iff.mpr fun character member => ?_
  rw [toList_lowercase] at member
  exact settled_of_mem_lowerFrom member

end ColumnVeil.Text
