import RegisterMachine.Program.Source

/-!
# Reading a program text in one pass

A program text is cut into lines, each line loses its comment, and what is left is cut into
tokens. One pass over the characters finds the same tokens (`Source.scan`). The scanner knows
the number of the line and the token under way, and in a comment it has no token. A token ends
at a separator, at a comment mark, and with its line or the text.

The program is read from the tokens that the scanner finds, in order, and the first of them that
is no literal is the error (`Source.parse_eq_mapM_scan`).
-/

set_option autoImplicit false

namespace RegisterMachine

namespace Source

/-! ## The scanner -/

/-- The token that the scanner has under way, with the number of its line. It is kept in
reverse, and there is none in a comment. -/
def flush (line : Nat) : Option (List Char) → List (Nat × List Char)
  | none | some [] => []
  | some token => [(line, token.reverse)]

/-- The tokens that the scanner finds in the rest of a text, with the numbers of their lines. -/
def scanFrom (line : Nat) (token : Option (List Char)) : List Char → List (Nat × List Char)
  | [] => flush line token
  | '\r' :: '\n' :: rest => flush line token ++ scanFrom (line + 1) (some []) rest
  | c :: rest =>
    if Text.isLineBreak c then flush line token ++ scanFrom (line + 1) (some []) rest
    else match token with
      | none => scanFrom line none rest
      | some read =>
        if isCommentMark c then flush line token ++ scanFrom line none rest
        else if isSeparator c then flush line token ++ scanFrom line (some []) rest
        else scanFrom line (some (c :: read)) rest

/-- The tokens of a text, with the numbers of their lines. -/
def scan (text : List Char) : List (Nat × List Char) := scanFrom 1 (some []) text

/-! ## One character at a time -/

theorem scanFrom_of_not_lineBreak {c : Char} (inside : Text.isLineBreak c = false) (line : Nat)
    (token : Option (List Char)) (rest : List Char) :
    scanFrom line token (c :: rest) =
      match token with
      | none => scanFrom line none rest
      | some read =>
        if isCommentMark c then flush line token ++ scanFrom line none rest
        else if isSeparator c then flush line token ++ scanFrom line (some []) rest
        else scanFrom line (some (c :: read)) rest := by
  have alone : ∀ others, c = '\r' → rest = '\n' :: others → False := by
    rintro others rfl
    cases inside
  cases token with
  | none => rw [scanFrom, if_neg (Bool.eq_false_iff.1 inside)]; exact alone
  | some read => rw [scanFrom, if_neg (Bool.eq_false_iff.1 inside)]; exact alone

theorem scanFrom_of_lineBreak {c : Char} {rest : List Char} (ends : Text.isLineBreak c = true)
    (alone : ∀ others, c = '\r' → rest = '\n' :: others → False) (line : Nat)
    (token : Option (List Char)) :
    scanFrom line token (c :: rest) = flush line token ++ scanFrom (line + 1) (some []) rest := by
  cases token with
  | none => rw [scanFrom, if_pos ends]; exact alone
  | some read => rw [scanFrom, if_pos ends]; exact alone

/-- A line break ends the token under way, and what the scanner finds behind it does not depend
on that token. -/
theorem exists_scanFrom_of_lineBreak {c : Char} (ends : Text.isLineBreak c = true) (line : Nat)
    (rest : List Char) :
    ∃ later, ∀ token, scanFrom line token (c :: rest) = flush line token ++ later := by
  by_cases pair : c = '\r' ∧ ∃ others, rest = '\n' :: others
  · obtain ⟨rfl, others, rfl⟩ := pair
    exact ⟨scanFrom (line + 1) (some []) others, fun token => by rw [scanFrom]⟩
  · refine ⟨_, scanFrom_of_lineBreak ends (fun others first second => ?_) line⟩
    exact pair ⟨first, others, second⟩

theorem isSeparator_of_isLineBreak {c : Char} (ends : Text.isLineBreak c = true) :
    isSeparator c = true := by
  rw [isSeparator, Text.isBlank_of_isLineBreak ends, Bool.or_true]

/-- What ends a token: the end of the text, a separator, or a comment mark. -/
def Stops (rest : List Char) : Prop := ∀ c ∈ rest.head?, isSeparator c ∨ isCommentMark c

/-- **Where a token ends, the scanner begins anew.** -/
theorem scanFrom_of_stops {rest : List Char} (stops : Stops rest) (line : Nat)
    (token : List Char) :
    scanFrom line (some token) rest = flush line (some token) ++ scanFrom line (some []) rest := by
  cases rest with
  | nil => exact (List.append_nil _).symm
  | cons c rest =>
    cases ends : Text.isLineBreak c with
    | true =>
      obtain ⟨later, same⟩ := exists_scanFrom_of_lineBreak ends line rest
      rw [same, same]
      rfl
    | false =>
      rw [scanFrom_of_not_lineBreak ends, scanFrom_of_not_lineBreak ends]
      cases marked : isCommentMark c with
      | true => rfl
      | false =>
        have separates : isSeparator c = true :=
          (stops c rfl).resolve_right (by rw [marked]; exact Bool.false_ne_true)
        simp only [separates, if_true]
        rfl

/-- In a comment the scanner goes on to the end of the line. -/
theorem scanFrom_none_append {body : List Char}
    (within : ∀ c ∈ body, Text.isLineBreak c = false) (line : Nat) (rest : List Char) :
    scanFrom line none (body ++ rest) = scanFrom line none rest := by
  induction body with
  | nil => rfl
  | cons c body ih =>
    obtain ⟨here, later⟩ := List.forall_mem_cons.1 within
    rw [List.cons_append, scanFrom_of_not_lineBreak here]
    exact ih later

/-- Where a line ends, only the token under way is left of it. -/
theorem scanFrom_of_line_ends {rest : List Char} (ends : ∀ c ∈ rest.head?, Text.isLineBreak c)
    (line : Nat) (token : Option (List Char)) :
    scanFrom line token rest = flush line token ++ scanFrom line none rest := by
  cases rest with
  | nil => exact (List.append_nil _).symm
  | cons c rest =>
    obtain ⟨later, same⟩ := exists_scanFrom_of_lineBreak (ends c rfl) line rest
    rw [same, same]
    rfl

/-! ## One line at a time -/

/-- The tokens of lines that are numbered from the given number on. -/
def numbered : Nat → List (List Char) → List (Nat × List Char)
  | _, [] => []
  | line, text :: rest => (tokens (code text)).map (line, ·) ++ numbered (line + 1) rest

theorem map_tokensFrom_nil (line : Nat) (token : List Char) :
    (tokensFrom token []).map (line, ·) = flush line (some token) := by
  cases token <;> rfl

/-- **Of a line the scanner finds the tokens before its comment.** -/
theorem scanFrom_line {text : List Char} (within : ∀ c ∈ text, Text.isLineBreak c = false)
    {rest : List Char} (ends : ∀ c ∈ rest.head?, Text.isLineBreak c) (line : Nat)
    (token : List Char) :
    scanFrom line (some token) (text ++ rest) =
      (tokensFrom token (code text)).map (line, ·) ++ scanFrom line none rest := by
  induction text generalizing token with
  | nil =>
    have nothing : code [] = [] := rfl
    rw [List.nil_append, nothing, map_tokensFrom_nil, scanFrom_of_line_ends ends]
  | cons c text ih =>
    obtain ⟨here, later⟩ := List.forall_mem_cons.1 within
    rw [List.cons_append, scanFrom_of_not_lineBreak here]
    cases marked : isCommentMark c with
    | true =>
      have nothing : code (c :: text) = [] := by simp [code, marked]
      rw [nothing, map_tokensFrom_nil, scanFrom_none_append later]
      rfl
    | false =>
      have keeps : code (c :: text) = c :: code text := by simp [code, marked]
      rw [keeps, tokensFrom]
      cases separates : isSeparator c with
      | true =>
        have joined : (if token.isEmpty then tokensFrom [] (code text)
            else token.reverse :: tokensFrom [] (code text)).map (line, ·)
            = flush line (some token) ++ (tokensFrom [] (code text)).map (line, ·) := by
          cases token <;> rfl
        simp only [if_true, joined, ih later, List.append_assoc]
        rfl
      | false => exact ih later (c :: token)

/-- The lines of a text, numbered, have the tokens that the scanner finds. The line under way
is kept in reverse. -/
theorem numbered_linesFrom (current text : List Char)
    (within : ∀ c ∈ current.reverse, Text.isLineBreak c = false) (line : Nat) :
    numbered line (Text.linesFrom current text)
      = scanFrom line (some []) (current.reverse ++ text) := by
  fun_induction Text.linesFrom current text generalizing line with
  | case1 current empty =>
    obtain rfl := List.isEmpty_iff.1 empty
    rfl
  | case2 current _ =>
    rw [scanFrom_line within (by simp)]
    rfl
  | case3 current rest ih =>
    rw [scanFrom_line within (by rintro c ⟨⟩; rfl), scanFrom, numbered, ih (by simp)]
    rfl
  | case4 current c rest alone ends ih =>
    rw [scanFrom_line within (by rintro d ⟨⟩; exact ends), scanFrom_of_lineBreak ends ?_, numbered,
      ih (by simp)]
    · rfl
    · exact alone
  | case5 current c rest _ goesOn ih =>
    have stays : ∀ d ∈ (c :: current).reverse, Text.isLineBreak d = false := by
      intro d present
      rcases List.mem_append.1 (List.reverse_cons ▸ present) with earlier | last
      · exact within d earlier
      · obtain rfl := List.mem_singleton.1 last
        exact Bool.eq_false_iff.2 goesOn
    rw [ih stays, List.reverse_cons, List.append_assoc]
    rfl

/-! ## Reading the tokens -/

/-- The value of a token in a line of that number. -/
def readToken (token : Nat × List Char) : Except ParseError Int :=
  match Numeral.literal? token.2 with
  | some value => .ok value
  | none => .error (.notAnInteger token.1 token.2)

theorem readTokens_eq_mapM (line : Nat) (found : List (List Char)) :
    readTokens line found = (found.map (line, ·)).mapM readToken := by
  induction found with
  | nil => rfl
  | cons token rest ih =>
    rw [readTokens, ih, List.map_cons, List.mapM_cons, readToken]
    cases Numeral.literal? token with
    | none => rfl
    | some value => cases (rest.map (line, ·)).mapM readToken <;> rfl

theorem readLines_eq_mapM (line : Nat) (texts : List (List Char)) :
    readLines line texts = (numbered line texts).mapM readToken := by
  induction texts generalizing line with
  | nil => rfl
  | cons text rest ih => rw [readLines, numbered, List.mapM_append, readTokens_eq_mapM, ih]

/-- **One pass is enough.** The program is read from the tokens that the scanner finds. -/
theorem parse_eq_mapM_scan (text : String) :
    parse text = (scan text.toList).mapM readToken := by
  rw [parse, readLines_eq_mapM, Text.lines, numbered_linesFrom [] text.toList (by simp)]
  rfl

end Source

end RegisterMachine
