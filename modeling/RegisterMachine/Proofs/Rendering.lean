import RegisterMachine.Proofs.Scanning
import RegisterMachine.Proofs.Spelling

/-!
# Renderings of programs

A program can be put down in many ways. Its values may be spelled in decimal or in hexadecimal,
commas and blanks stand between them, and a line may end in a comment (`Source.Renders`).
However a program is rendered, the text is read as that program (`Source.parse_of_renders`). The
text in which a program is written is one of its renderings, so that what is written is read
again.
-/

set_option autoImplicit false

namespace RegisterMachine

namespace Source

/-! ## The renderings -/

/-- What stands between values: separators, and comments, each of which ends with its line. -/
inductive Gap : List Char → Prop
  | nil : Gap []
  | separator {c : Char} {rest : List Char} (separates : isSeparator c = true) (gap : Gap rest) :
    Gap (c :: rest)
  | comment {mark ending : Char} {body rest : List Char} (starts : isCommentMark mark = true)
      (within : ∀ c ∈ body, Text.isLineBreak c = false) (ends : Text.isLineBreak ending = true)
      (gap : Gap rest) :
    Gap (mark :: (body ++ ending :: rest))

/-- A text renders a program: it spells the values in order, with gaps before and after them. The
gap between two values is not empty. The last line may end in a comment, too. -/
inductive Renders : List Char → List Int → Prop
  | blank {gap : List Char} (rest : Gap gap) : Renders gap []
  | comment {gap body : List Char} {mark : Char} (before : Gap gap)
      (starts : isCommentMark mark = true)
      (within : ∀ c ∈ body, Text.isLineBreak c = false) :
    Renders (gap ++ mark :: body) []
  | value {gap chars after rest : List Char} {value : Int} {values : List Int} (before : Gap gap)
      (spelled : Numeral.Spells chars value) (behind : Gap after)
      (apart : values ≠ [] → after ≠ []) (others : Renders rest values) :
    Renders (gap ++ (chars ++ (after ++ rest))) (value :: values)

/-! ## Reading renderings -/

theorem Gap.stops {gap : List Char} (is : Gap gap) : Stops gap := by
  cases is with
  | nil => rintro c ⟨⟩
  | separator separates _ => rintro c ⟨⟩; exact .inl separates
  | comment starts _ _ _ => rintro c ⟨⟩; exact .inr starts

theorem Stops.append {first : List Char} (stops : Stops first) {second : List Char}
    (otherwise : first = [] → Stops second) : Stops (first ++ second) := by
  cases first with
  | nil => exact otherwise rfl
  | cons c rest => exact stops

/-- What renders no values ends a token. -/
theorem Renders.stops {text : List Char} (renders : Renders text []) : Stops text := by
  cases renders with
  | blank rest => exact rest.stops
  | comment before starts within =>
    refine before.stops.append fun _ => ?_
    rintro c ⟨⟩
    exact .inr starts

/-- No character is both a separator and a comment mark. -/
theorem isCommentMark_of_isSeparator {c : Char} (separates : isSeparator c = true) :
    isCommentMark c = false := by
  refine Bool.eq_false_iff.2 fun marks => ?_
  rcases (Bool.or_eq_true _ _).mp marks with is | is
  all_goals
    rw [beq_iff_eq.1 is] at separates
    cases separates

/-- A comment is passed over, up to the end of its line. -/
theorem scanFrom_comment {mark : Char} (starts : isCommentMark mark = true) {body : List Char}
    (within : ∀ c ∈ body, Text.isLineBreak c = false) (line : Nat) (rest : List Char) :
    scanFrom line (some []) (mark :: (body ++ rest)) = scanFrom line none rest := by
  have inside : Text.isLineBreak mark = false := by
    refine Bool.eq_false_iff.2 fun ends => ?_
    rw [isCommentMark_of_isSeparator (isSeparator_of_isLineBreak ends)] at starts
    cases starts
  rw [scanFrom_of_not_lineBreak inside]
  simp only [starts, if_true]
  exact scanFrom_none_append within line rest

/-- A separator between tokens is skipped, if what follows it is. It may end a line. -/
theorem exists_scanFrom_separator {c : Char} (separates : isSeparator c = true)
    {later rest : List Char}
    (skipped : ∀ line, ∃ next, scanFrom line (some []) later = scanFrom next (some []) rest)
    (line : Nat) :
    ∃ next, scanFrom line (some []) (c :: later) = scanFrom next (some []) rest := by
  cases ends : Text.isLineBreak c with
  | false =>
    rw [scanFrom_of_not_lineBreak ends]
    simp only [isCommentMark_of_isSeparator separates, separates, if_true]
    exact skipped line
  | true =>
    by_cases pair : c = '\r' ∧ ∃ others, later = '\n' :: others
    · -- The two characters are one line break, and so is the second by itself.
      obtain ⟨rfl, others, rfl⟩ := pair
      have same : scanFrom line (some []) ('\r' :: '\n' :: others)
          = scanFrom line (some []) ('\n' :: others) := by
        rw [scanFrom, scanFrom_of_lineBreak (by decide) (by rintro _ ⟨⟩)]
      rw [same]
      exact skipped line
    · rw [scanFrom_of_lineBreak ends fun others first second => pair ⟨first, others, second⟩]
      exact skipped (line + 1)

/-- **Gaps hold no tokens.** The scanner passes over a gap, and only the number of the line
changes. -/
theorem Gap.exists_scanFrom {gap : List Char} (is : Gap gap) (line : Nat) (rest : List Char) :
    ∃ next, scanFrom line (some []) (gap ++ rest) = scanFrom next (some []) rest := by
  induction is generalizing line with
  | nil => exact ⟨line, rfl⟩
  | separator separates _ ih => exact exists_scanFrom_separator separates ih line
  | @comment mark ending body later starts within ends _ ih =>
    have skipped : scanFrom line (some []) (mark :: (body ++ ending :: (later ++ rest)))
        = scanFrom line (some []) (ending :: (later ++ rest)) := by
      rw [scanFrom_comment starts within]
      obtain ⟨found, same⟩ := exists_scanFrom_of_lineBreak ends line (later ++ rest)
      rw [same, same]
      rfl
    rw [List.cons_append, List.append_assoc, List.cons_append, skipped]
    exact exists_scanFrom_separator (isSeparator_of_isLineBreak ends) ih line

/-- The characters of a spelling go on with the token under way. -/
theorem scanFrom_append_of_spelling {chars : List Char}
    (plain : ∀ c ∈ chars, isSeparator c = false ∧ isCommentMark c = false) (line : Nat)
    (token rest : List Char) :
    scanFrom line (some token) (chars ++ rest)
      = scanFrom line (some (chars.reverse ++ token)) rest := by
  induction chars generalizing token with
  | nil => rfl
  | cons c chars ih =>
    obtain ⟨⟨apart, unmarked⟩, later⟩ := List.forall_mem_cons.1 plain
    have inside : Text.isLineBreak c = false := by
      refine Bool.eq_false_iff.2 fun ends => ?_
      rw [isSeparator_of_isLineBreak ends] at apart
      cases apart
    rw [List.cons_append, scanFrom_of_not_lineBreak inside]
    simp only [unmarked, apart, Bool.false_eq_true, if_false]
    rw [ih later, List.reverse_cons, List.append_assoc]
    rfl

theorem flush_reverse {token : List Char} (present : token ≠ []) (line : Nat) :
    flush line (some token.reverse) = [(line, token)] := by
  cases reversed : token.reverse with
  | nil => exact absurd (List.reverse_eq_nil_iff.1 reversed) present
  | cons last front =>
    refine congrArg (fun read => [(line, read)]) ?_
    rw [← reversed, List.reverse_reverse]

/-- No letter, digit or sign separates tokens or starts a comment. -/
theorem plain_of_spells {chars : List Char} {value : Int} (spelled : Numeral.Spells chars value) :
    ∀ c ∈ chars, isSeparator c = false ∧ isCommentMark c = false := by
  intro c present
  rcases spelled.chars c present with alphanumeric | rfl | rfl
  · have bounds := Numeral.toNat_of_isAlphanum alphanumeric
    have comma : c ≠ ',' := by rintro rfl; cases alphanumeric
    have sign : c ≠ '#' := by rintro rfl; cases alphanumeric
    have semicolon : c ≠ ';' := by rintro rfl; cases alphanumeric
    have solid : Text.isBlank c = false := by
      simp only [Text.isBlank, Bool.or_eq_false_iff, Bool.and_eq_false_iff, decide_eq_false_iff_not,
        beq_eq_false_iff_ne]
      omega
    simp [isSeparator, isCommentMark, comma, sign, semicolon, solid]
  · decide
  · decide

/-- **The tokens of a rendering spell the values of its program.** -/
theorem Renders.forall₂_scanFrom {text : List Char} {program : List Int}
    (renders : Renders text program) (line : Nat) :
    List.Forall₂ (fun token value => Numeral.Spells token.2 value)
      (scanFrom line (some []) text) program := by
  induction renders generalizing line with
  | @blank gap rest =>
    obtain ⟨next, skipped⟩ := rest.exists_scanFrom line []
    rw [List.append_nil] at skipped
    rw [skipped]
    exact .nil
  | @comment gap body mark before starts within =>
    obtain ⟨next, skipped⟩ := before.exists_scanFrom line (mark :: body)
    have ended := scanFrom_comment starts within next []
    rw [List.append_nil] at ended
    rw [skipped, ended]
    exact .nil
  | @value gap chars after rest value values before spelled behind apart others ih =>
    obtain ⟨here, skipped⟩ := before.exists_scanFrom line (chars ++ (after ++ rest))
    obtain ⟨next, later⟩ := behind.exists_scanFrom here rest
    have stops : Stops (after ++ rest) := by
      refine behind.stops.append fun nothing => ?_
      cases values with
      | nil => exact others.stops
      | cons second more => exact absurd nothing (apart (List.cons_ne_nil _ _))
    rw [skipped, scanFrom_append_of_spelling (plain_of_spells spelled), scanFrom_of_stops stops,
      later, List.append_nil, flush_reverse spelled.ne_nil]
    exact .cons spelled (ih next)

/-- Tokens that spell values are read as those values. -/
theorem mapM_readToken_of_spells {found : List (Nat × List Char)} {program : List Int}
    (spelled : List.Forall₂ (fun token value => Numeral.Spells token.2 value) found program) :
    found.mapM readToken = .ok program := by
  induction spelled with
  | nil => rfl
  | cons here _ ih =>
    rw [List.mapM_cons, readToken, Numeral.literal?_of_spells here, ih]
    rfl

/-- **However a program is rendered, it is read.** -/
theorem parse_of_renders {text : String} {program : List Int}
    (renders : Renders text.toList program) : parse text = .ok program := by
  rw [parse_eq_mapM_scan]
  exact mapM_readToken_of_spells (renders.forall₂_scanFrom 1)

/-! ## Written programs -/

theorem decimals_of_short {program : List Int}
    (short : ∀ value ∈ program, value.natAbs < 10 ^ Numeral.digitLimit) :
    decimals program = .ok (program.map toString) := by
  induction program with
  | nil => rfl
  | cons value rest ih =>
    obtain ⟨here, later⟩ := List.forall_mem_cons.1 short
    rw [decimals, Numeral.writeDecimal_of_short here, ih later]
    rfl

/-- A comma and a space stand between values. -/
theorem gap_comma_space : Gap ", ".toList :=
  .separator (by decide) (.separator (by decide) .nil)

/-- **A program is written as one of its renderings.** -/
theorem renders_intercalate {program : List Int}
    (short : ∀ value ∈ program, value.natAbs < 10 ^ Numeral.digitLimit) :
    Renders (", ".intercalate (program.map toString)).toList program := by
  induction program with
  | nil => exact .blank .nil
  | cons value rest ih =>
    obtain ⟨here, later⟩ := List.forall_mem_cons.1 short
    have spelled := Numeral.spells_toString here
    cases rest with
    | nil =>
      have alone := Renders.value .nil spelled .nil (fun some => absurd rfl some) (.blank .nil)
      rw [List.append_nil, List.nil_append, List.append_nil] at alone
      rw [List.map_singleton, String.intercalate_singleton]
      exact alone
    | cons second more =>
      rw [List.map_cons, List.map_cons, String.intercalate_cons_cons, String.toList_append,
        String.toList_append, List.append_assoc]
      exact .value .nil spelled gap_comma_space (fun _ => by decide) (ih later)

/-- **Reading undoes every rendering.** A text that renders a program is read as that program.
The text in which a program is written is read as the program, too, if its values are not too
long to be written. -/
theorem parse_undoes_rendering :
    (∀ text program, Renders text.toList program → parse text = .ok program) ∧
      ∀ program : List Int, (∀ value ∈ program, value.natAbs < 10 ^ Numeral.digitLimit) →
        ∃ text, write program = .ok text ∧ parse text = .ok program := by
  refine ⟨fun text program => parse_of_renders, fun program short => ?_⟩
  refine ⟨", ".intercalate (program.map toString), ?_, parse_of_renders (renders_intercalate short)⟩
  rw [write, decimals_of_short short]
  rfl

/-- A program in decimal and hexadecimal, on two lines that end in comments. -/
theorem parse_undoes_rendering_with_comments :
    parse "\t1,-20;0x2\r\n0X0c#" = .ok [1, -20, 12] ∧
      ∃ text, write [1, -20, 12] = .ok text ∧ parse text = .ok [1, -20, 12] := by
  have short : ∀ value ∈ ([1, -20, 12] : List Int), value.natAbs < 10 ^ Numeral.digitLimit := by
    have room : 10 ^ 2 ≤ 10 ^ Numeral.digitLimit := Nat.pow_le_pow_right (by decide) (by decide)
    intro value present
    refine Nat.lt_of_lt_of_le ?_ room
    revert value
    decide
  have one : Numeral.Digits 10 [1] ['1'] := ⟨by decide, .cons (.inl rfl) .nil, by decide⟩
  have twenty : Numeral.Digits 10 [2, 0] ['2', '0'] :=
    ⟨by decide, .cons (.inl rfl) (.cons (.inl rfl) .nil), by decide⟩
  have twelve : Numeral.Digits 16 [0, 12] ['0', 'c'] :=
    ⟨by decide, .cons (.inl rfl) (.cons (.inl rfl) .nil), by decide⟩
  have remark : Gap [';', '0', 'x', '2', '\r', '\n'] :=
    @Gap.comment _ _ ['0', 'x', '2'] _ (by decide)
      (List.forall_mem_cons.2 ⟨rfl, List.forall_mem_cons.2 ⟨rfl, List.forall_mem_singleton.2 rfl⟩⟩)
      (by decide) (.separator (by decide) .nil)
  have last : Renders ['0', 'X', '0', 'c', '#'] [12] :=
    .value .nil (.unsigned (.hexadecimal (.inr rfl) twelve)) .nil (fun more => absurd rfl more)
      (@Renders.comment _ [] _ .nil (by decide) (List.forall_mem_nil _))
  have second := Renders.value .nil (.minus (.decimal twenty (by decide) (by decide))) remark
    (by decide) last
  have rendering := Renders.value (.separator (c := '\t') (by decide) .nil)
    (.unsigned (.decimal one (by decide) (by decide)))
    (.separator (c := ',') (by decide) .nil) (by decide) second
  have chars : "\t1,-20;0x2\r\n0X0c#".toList = ['\t', '1', ',', '-', '2', '0', ';', '0', 'x', '2',
      '\r', '\n', '0', 'X', '0', 'c', '#'] := by decide
  refine ⟨parse_undoes_rendering.1 _ _ ?_, parse_undoes_rendering.2 _ short⟩
  rw [chars]
  exact rendering

end Source

end RegisterMachine
