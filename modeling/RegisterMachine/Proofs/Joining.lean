import RegisterMachine.Proofs.Scanning

/-!
# Joined program texts

Two program texts are joined by a line feed between them. The line feed ends the last line of the
first text, if that line is still under way. Behind a carriage return it belongs to the line break
that is there, and behind any other line break it adds a line without characters. The second text
is split by itself in any case (`Text.exists_lines_joined`), and its lines are numbered on from
those of the first (`Source.readLines_append`).

So a joined text is read as its two texts are, one after the other (`Source.parse_joined`). Of two
errors the first decides, and an error of the second text is found as many lines further on as the
first text has with its line feed.
-/

set_option autoImplicit false

namespace RegisterMachine

namespace Text

/-! ## The lines of joined texts -/

/-- A character that begins no pair of carriage return and line feed is looked at alone. -/
theorem linesFrom_cons {c : Char} {rest : List Char}
    (alone : ∀ others, c = '\r' → rest = '\n' :: others → False) (line : List Char) :
    linesFrom line (c :: rest) =
      if isLineBreak c then line.reverse :: linesFrom [] rest else linesFrom (c :: line) rest := by
  rw [linesFrom]
  exact alone

/-- Nor does it begin a pair when a line feed is put behind the text, except at its end. -/
theorem alone_joined {c : Char} {rest : List Char}
    (alone : ∀ others, c = '\r' → rest = '\n' :: others → False)
    (inside : ¬ (c = '\r' ∧ rest = [])) (second : List Char) :
    ∀ others, c = '\r' → rest ++ '\n' :: second = '\n' :: others → False := by
  intro others returns same
  cases rest with
  | nil => exact inside ⟨returns, rfl⟩
  | cons d rest => exact alone rest returns (by rw [(List.cons.inj same).1])

/-- A line feed behind a text ends the line under way or belongs to the last line break, or else it
adds a line without characters. What is behind the line feed is split by itself. -/
theorem exists_linesFrom_joined (line first : List Char) :
    ∃ added, (added = [] ∨ added = [[]]) ∧ ∀ second,
      linesFrom line (first ++ '\n' :: second) = linesFrom line first ++ added ++ lines second := by
  fun_induction linesFrom line first with
  | case1 line empty =>
    obtain rfl := List.isEmpty_iff.1 empty
    exact ⟨[[]], .inr rfl, fun _ => rfl⟩
  | case2 line _ => exact ⟨[], .inl rfl, fun _ => rfl⟩
  | case3 line rest ih =>
    obtain ⟨added, blank, joined⟩ := ih
    exact ⟨added, blank, fun second => congrArg (line.reverse :: ·) (joined second)⟩
  | case4 line c rest alone ends ih =>
    by_cases last : c = '\r' ∧ rest = []
    · obtain ⟨rfl, rfl⟩ := last
      exact ⟨[], .inl rfl, fun _ => rfl⟩
    · obtain ⟨added, blank, joined⟩ := ih
      refine ⟨added, blank, fun second => ?_⟩
      rw [List.cons_append, linesFrom_cons (alone_joined alone last second), if_pos ends, joined]
      rfl
  | case5 line c rest alone goesOn ih =>
    obtain ⟨added, blank, joined⟩ := ih
    have inside : ¬ (c = '\r' ∧ rest = []) := by
      rintro ⟨rfl, -⟩
      exact goesOn rfl
    refine ⟨added, blank, fun second => ?_⟩
    rw [List.cons_append, linesFrom_cons (alone_joined alone inside second), if_neg goesOn, joined]

/-- **The lines of joined texts** are those of the first, perhaps a line without characters, and
those of the second. -/
theorem exists_lines_joined (first : List Char) :
    ∃ added, (added = [] ∨ added = [[]]) ∧ ∀ second,
      lines (first ++ '\n' :: second) = lines first ++ added ++ lines second :=
  exists_linesFrom_joined [] first

end Text

namespace Source

/-! ## Lines that are numbered further on -/

/-- The same error, that many lines further on. -/
def ParseError.further (lines : Nat) : ParseError → ParseError
  | .notAnInteger line token => .notAnInteger (line + lines) token

theorem readTokens_further (line lines : Nat) (found : List (List Char)) :
    readTokens (line + lines) found = (readTokens line found).mapError (.further lines) := by
  induction found with
  | nil => rfl
  | cons token rest ih =>
    rw [readTokens, readTokens, ih]
    cases Numeral.literal? token with
    | none => rfl
    | some value => cases readTokens line rest <;> rfl

/-- Lines that are numbered further on have the same values, or the same error further on. -/
theorem readLines_further (line lines : Nat) (texts : List (List Char)) :
    readLines (line + lines) texts = (readLines line texts).mapError (.further lines) := by
  induction texts generalizing line with
  | nil => rfl
  | cons text rest ih =>
    rw [readLines, readLines, readTokens_further, Nat.add_right_comm, ih]
    cases readTokens line (tokens (code text)) with
    | error cause => rfl
    | ok values => cases readLines (line + 1) rest <;> rfl

theorem numbered_append (line : Nat) (first second : List (List Char)) :
    numbered line (first ++ second)
      = numbered line first ++ numbered (line + first.length) second := by
  induction first generalizing line with
  | nil => rfl
  | cons text rest ih =>
    have onward : line + (text :: rest).length = line + 1 + rest.length := by
      rw [List.length_cons]
      omega
    rw [List.cons_append, numbered, numbered, ih, onward, List.append_assoc]

/-- **Lines are read one after the other**, and their numbers go on. -/
theorem readLines_append (line : Nat) (first second : List (List Char)) :
    readLines line (first ++ second) = do
      let values ← readLines line first
      let others ← readLines (line + first.length) second
      return values ++ others := by
  simp only [readLines_eq_mapM, numbered_append, List.mapM_append]

/-- A line without characters has no values. -/
theorem readLines_append_blank (line : Nat) (texts : List (List Char)) :
    readLines line (texts ++ [[]]) = readLines line texts := by
  rw [readLines_append]
  cases readLines line texts with
  | error cause => rfl
  | ok values => exact congrArg Except.ok (List.append_nil values)

/-! ## Joined programs -/

/-- **Joined texts are read one after the other.** The program of two texts with a line feed
between them is the first program and then the second. If the first text has an error, it is that
of the joined text. If only the second has one, its line is found behind the lines of the first
text and of the line feed, and its token is the same. -/
theorem parse_joined (first second : String) :
    parse (first ++ "\n" ++ second) =
      match parse first, parse second with
      | .ok values, .ok others => .ok (values ++ others)
      | .error cause, _ => .error cause
      | .ok _, .error (.notAnInteger line token) =>
        .error (.notAnInteger (line + (Text.lines (first ++ "\n").toList).length) token) := by
  obtain ⟨added, blank, joined⟩ := Text.exists_lines_joined first.toList
  have whole : Text.lines (first ++ "\n" ++ second).toList
      = Text.lines first.toList ++ added ++ Text.lines second.toList := by
    rw [← joined, String.toList_append, String.toList_append, List.append_assoc]
    rfl
  have ended : Text.lines (first ++ "\n").toList = Text.lines first.toList ++ added := by
    rw [String.toList_append]
    exact (joined []).trans (List.append_nil _)
  have values : readLines 1 (Text.lines first.toList ++ added) = parse first := by
    rcases blank with rfl | rfl
    · rw [List.append_nil, parse]
    · exact readLines_append_blank 1 _
  rw [parse, whole, readLines_append, values, ← ended, readLines_further, ← parse]
  cases parse first with
  | error cause => rfl
  | ok values =>
    cases parse second with
    | error cause => rfl
    | ok others => rfl

/-- A carriage return and the line feed behind it are one line break, and the comment ends there. -/
example : parse ("7; eight\r" ++ "\n" ++ "9, ten") = .error (.notAnInteger 2 ['t', 'e', 'n']) := by
  cbv

end Source

end RegisterMachine
