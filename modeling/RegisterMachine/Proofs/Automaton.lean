import RegisterMachine.Proofs.Scanning

/-!
# The scanner as an automaton

The scanner of program texts needs no look at the characters to come. Its state (`Scanner`) is the
number of the line, the token under way, whether a carriage return has just ended a line, and the
tokens found so far; each character is fed to it in turn (`Scanner.feed`). A line feed behind a
carriage return belongs to the line break that was already counted.

Fed a whole text, the automaton has found the tokens of the text (`close_foldl_feed`). They decide
what becomes of the text: the program is the row of their values, or else the first of them that is
no literal is the error, with its line (`parse_iff_scanner`).
-/

set_option autoImplicit false

namespace RegisterMachine

namespace Source

/-! ## The automaton -/

/-- The state of a scanner. -/
structure Scanner where
  line : Nat := 1
  /-- The token under way, in reverse. There is none in a comment. -/
  token : Option (List Char) := some []
  /-- The last character was a carriage return. -/
  returned : Bool := false
  /-- The tokens found, each with the number of its line. -/
  found : List (Nat × List Char) := []

namespace Scanner

/-- The tokens found, if the token under way ends here. -/
def close (s : Scanner) : List (Nat × List Char) := s.found ++ flush s.line s.token

/-- The scanner after one more character. -/
def feed (s : Scanner) (c : Char) : Scanner :=
  if s.returned = true ∧ c = '\n' then { s with returned := false }
  else if Text.isLineBreak c then
    { line := s.line + 1, token := some [], returned := c == '\r', found := s.close }
  else match s.token with
    | none => { s with returned := false }
    | some read =>
      if isCommentMark c then { s with token := none, returned := false, found := s.close }
      else if isSeparator c then { s with token := some [], returned := false, found := s.close }
      else { s with token := some (c :: read), returned := false }

/-- The tokens of a text, one character after the other. -/
def tokensOf (text : List Char) : List (Nat × List Char) := (text.foldl feed {}).close

/-- What is left to be scanned of a text. A line feed behind a carriage return is not. -/
def unread : Bool → List Char → List Char
  | true, '\n' :: rest => rest
  | _, text => text

theorem unread_cons {returned : Bool} {c : Char} (other : ¬ (returned = true ∧ c = '\n'))
    (rest : List Char) : unread returned (c :: rest) = c :: rest := by
  unfold unread
  split
  · rename_i others same
    exact absurd ⟨rfl, (List.cons.inj same).1⟩ other
  · rfl

/-- A line break leaves what is behind it, except the line feed behind a carriage return. -/
theorem scanFrom_lineBreak {c : Char} (ends : Text.isLineBreak c = true) (line : Nat)
    (token : Option (List Char)) (rest : List Char) :
    scanFrom line token (c :: rest) =
      flush line token ++ scanFrom (line + 1) (some []) (unread (c == '\r') rest) := by
  by_cases pair : c = '\r' ∧ ∃ others, rest = '\n' :: others
  · obtain ⟨rfl, others, rfl⟩ := pair
    rw [scanFrom]
    rfl
  · rw [scanFrom_of_lineBreak ends fun others first second => pair ⟨first, others, second⟩]
    have whole : unread (c == '\r') rest = rest := by
      unfold unread
      split
      · rename_i others returned
        exact absurd ⟨beq_iff_eq.1 returned, others, rfl⟩ pair
      · rfl
    rw [whole]

/-- **Fed the rest of a text, the automaton finds the tokens of that rest.** -/
theorem close_foldl_feed (s : Scanner) (text : List Char) :
    (text.foldl feed s).close = s.found ++ scanFrom s.line s.token (unread s.returned text) := by
  induction text generalizing s with
  | nil =>
    have nothing : unread s.returned [] = [] := by cases s.returned <;> rfl
    rw [nothing]
    rfl
  | cons c rest ih =>
    rw [List.foldl_cons, ih]
    by_cases paired : s.returned = true ∧ c = '\n'
    -- The line was counted at the carriage return.
    · obtain ⟨returned, rfl⟩ := paired
      rw [feed, if_pos ⟨returned, rfl⟩, returned]
      rfl
    · rw [unread_cons paired, feed, if_neg paired]
      cases ends : Text.isLineBreak c with
      | true =>
        rw [scanFrom_lineBreak ends, ← List.append_assoc]
        rfl
      | false =>
        rw [scanFrom_of_not_lineBreak ends]
        cases under : s.token with
        | none => rfl
        | some read =>
          have closed (later : List (Nat × List Char)) :
              s.close ++ later = s.found ++ (flush s.line (some read) ++ later) := by
            rw [close, under, List.append_assoc]
          cases isCommentMark c with
          | true => exact closed _
          | false =>
            cases isSeparator c with
            | true => exact closed _
            | false => rfl

/-- **The automaton finds the tokens of a text.** -/
theorem tokensOf_eq_scan (text : List Char) : tokensOf text = scan text := close_foldl_feed {} text

end Scanner

/-! ## What becomes of the tokens -/

/-- The first token is read, and then the others, unless it is no literal. -/
theorem mapM_readToken_cons (token : Nat × List Char) (rest : List (Nat × List Char)) :
    (token :: rest).mapM readToken =
      match Numeral.literal? token.2 with
      | some value => (rest.mapM readToken).map (value :: ·)
      | none => .error (.notAnInteger token.1 token.2) := by
  rw [List.mapM_cons, readToken]
  cases Numeral.literal? token.2 with
  | none => rfl
  | some value => cases rest.mapM readToken <;> rfl

/-- Tokens are read if all of them are literals. -/
theorem mapM_readToken_eq_ok_iff {found : List (Nat × List Char)} {values : List Int} :
    found.mapM readToken = .ok values ↔
      found.map (fun token => Numeral.literal? token.2) = values.map some := by
  induction found generalizing values with
  | nil => cases values <;> simp [pure, Except.pure]
  | cons token rest ih =>
    rw [mapM_readToken_cons, List.map_cons]
    cases Numeral.literal? token.2 with
    | none => cases values <;> simp
    | some value =>
      cases values with
      | nil => cases rest.mapM readToken <;> simp [Except.map]
      | cons first others =>
        rw [List.map_cons, List.cons.injEq, ← ih, Option.some_inj]
        cases rest.mapM readToken <;> simp [Except.map]

/-- The first token that is no literal is the error. -/
theorem mapM_readToken_eq_error_iff {found : List (Nat × List Char)} {e : ParseError} :
    found.mapM readToken = .error e ↔
      ∃ before line token after, found = before ++ (line, token) :: after ∧
        (∀ earlier ∈ before, (Numeral.literal? earlier.2).isSome = true) ∧
        Numeral.literal? token = none ∧ e = .notAnInteger line token := by
  induction found with
  | nil => simp [pure, Except.pure]
  | cons first rest ih =>
    rw [mapM_readToken_cons]
    cases literal : Numeral.literal? first.2 with
    | none =>
      constructor
      · intro failed
        exact ⟨[], first.1, first.2, rest, rfl, nofun, literal, (Except.error.inj failed).symm⟩
      · rintro ⟨before, line, token, after, split, literals, -, rfl⟩
        cases before with
        | nil =>
          obtain ⟨rfl, -⟩ := List.cons.inj split
          rfl
        | cons earlier before =>
          obtain ⟨rfl, -⟩ := List.cons.inj split
          have known := literals first (List.mem_cons_self ..)
          rw [literal] at known
          cases known
    | some value =>
      have passed : (rest.mapM readToken).map (value :: ·) = .error e ↔
          rest.mapM readToken = .error e := by
        cases rest.mapM readToken <;> simp [Except.map]
      refine passed.trans (ih.trans ?_)
      constructor
      · rintro ⟨before, line, token, after, rfl, literals, rest⟩
        refine ⟨first :: before, line, token, after, rfl, ?_, rest⟩
        exact List.forall_mem_cons.2 ⟨by rw [literal]; rfl, literals⟩
      · rintro ⟨before, line, token, after, split, literals, unread, rfl⟩
        cases before with
        | nil =>
          obtain ⟨rfl, -⟩ := List.cons.inj split
          rw [unread] at literal
          cases literal
        | cons earlier before =>
          obtain ⟨rfl, rfl⟩ := List.cons.inj split
          exact ⟨before, line, token, after, rfl, (List.forall_mem_cons.1 literals).2, unread, rfl⟩

/-- **Programs are read as an automaton reads them.** Fed the characters of a text, it has found
tokens with the numbers of their lines. If all of them are literals, the program has their values,
in order; otherwise the error names the first that is none, and its line. -/
theorem parse_iff_scanner (text : String) :
    let tokens := Scanner.tokensOf text.toList
    (∀ values, parse text = .ok values ↔
      tokens.map (fun token => Numeral.literal? token.2) = values.map some) ∧
    (∀ e, parse text = .error e ↔
      ∃ before line token after, tokens = before ++ (line, token) :: after ∧
        (∀ earlier ∈ before, (Numeral.literal? earlier.2).isSome = true) ∧
        Numeral.literal? token = none ∧ e = .notAnInteger line token) ∧
    (∀ line token, (ParseError.notAnInteger line token).message =
      "Line " ++ toString line ++ ": not an integer: " ++ Text.quote (String.ofList token)) := by
  intro tokens
  have same : parse text = tokens.mapM readToken := by
    rw [parse_eq_mapM_scan, ← Scanner.tokensOf_eq_scan]
  rw [same]
  exact ⟨fun _ => mapM_readToken_eq_ok_iff, fun _ => mapM_readToken_eq_error_iff,
    fun _ _ => rfl⟩

end Source

end RegisterMachine
