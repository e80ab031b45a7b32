import Testbed.Proofs.Json.Writing
/-!
# Scanning what was written

However a value is spaced out, the scanner finds exactly its tokens in it (`Written.tokens`). A
literal gives its text back because every character is escaped into one piece
(`scanText_escapeChar`), a numeral because what stands behind it cannot belong to it (`Delimits`).
-/

namespace Testbed.Json

/-! ## Steps of the scanner -/

/-- The tokens of text that is text throughout. -/
def scanText (mode : Mode) (cs : List Char) : List Token := scan mode (cs.map some)

variable {mode next : Mode} {c : Char} {cs rest : List Char} {ts : List Token}

attribute [local simp] Mode.step

@[simp]
theorem scanText_nil : scanText mode [] = mode.finish := rfl

theorem scanText_cons (ts : List Token) (next : Mode)
    (step : mode.step c (rest.map some) = (ts, some next)) :
    scanText mode (c :: rest) = ts ++ scanText next rest := by
  simp only [scanText, List.map_cons, scan, Option.elim, step]

theorem scanText_silent (next : Mode) (step : mode.step c (rest.map some) = ([], some next)) :
    scanText mode (c :: rest) = scanText next rest :=
  scanText_cons [] next step

/-- What is scanned first only depends on the first character, so two modes that treat it alike go on
alike. -/
theorem scanText_congr {mode' : Mode} (lead : List Token)
    (atEnd : mode.finish = lead ++ mode'.finish)
    (step : ∀ c more, rest = c :: more → mode.step c (more.map some) =
      (lead ++ (mode'.step c (more.map some)).1, (mode'.step c (more.map some)).2)) :
    scanText mode rest = lead ++ scanText mode' rest := by
  cases rest with
  | nil => exact atEnd
  | cons c more =>
    simp only [scanText, List.map_cons, scan, Option.elim, step c more rfl]
    generalize mode'.step c (more.map some) = r
    obtain ⟨ts, _ | next⟩ := r
    · rfl
    · exact List.append_assoc lead ts _

/-- Blanks between tokens are passed over. -/
theorem scanText_blank (blank : ∀ c ∈ cs, isSpace c = true) :
    scanText .between (cs ++ rest) = scanText .between rest := by
  induction cs with
  | nil => rfl
  | cons c cs ih =>
    have here : isSpace c = true := blank c List.mem_cons_self
    rw [List.cons_append, scanText_silent .between]
    · exact ih fun d mem => blank d (List.mem_cons_of_mem c mem)
    · simp [beginToken, here]

/-! ## Words -/

/-- A word that is complete ends whatever stands behind it. -/
theorem scanText_word_end {t : Token} :
    scanText (.word [] t) rest = t :: scanText .between rest :=
  scanText_congr [t] rfl fun _ _ _ => rfl

theorem scanText_word (word : List Char) {t : Token} :
    scanText (.word word t) (word ++ rest) = t :: scanText .between rest := by
  induction word with
  | nil => exact scanText_word_end
  | cons c word ih =>
    rw [List.cons_append, scanText_silent (.word word t)]
    · exact ih
    · simp

/-! ## Numerals -/

/-- What stands behind a numeral cannot belong to it. -/
def Delimits (rest : List Char) : Prop :=
  ∀ c, rest.head? = some c → c.isDigit = false ∧ c ≠ '.' ∧ c ≠ 'e' ∧ c ≠ 'E'

theorem delimits_nil : Delimits [] := by
  intro c h
  cases h

theorem scanText_digits_end {n : Numeral} (delimits : Delimits rest) :
    scanText (.digits n) rest = .number n :: scanText .between rest := by
  refine scanText_congr [.number n] rfl fun c more eq => ?_
  obtain ⟨digit, point, lower, upper⟩ := delimits c (by rw [eq]; rfl)
  simp [afterWhole, endNumber, digit, point, lower, upper]

theorem scanText_zero_end {n : Numeral} (delimits : Delimits rest) :
    scanText (.zero n) rest = .number n :: scanText .between rest := by
  refine scanText_congr [.number n] rfl fun c more eq => ?_
  obtain ⟨digit, point, lower, upper⟩ := delimits c (by rw [eq]; rfl)
  simp [afterWhole, endNumber, digit, point, lower, upper]

theorem scanText_digits {n : Numeral} {ds : List Char} (digits : ∀ c ∈ ds, c.isDigit = true)
    (delimits : Delimits rest) : scanText (.digits n) (ds ++ rest) =
      .number { n with whole := n.whole ++ ds } :: scanText .between rest := by
  induction ds generalizing n with
  | nil =>
    rw [List.append_nil]
    exact scanText_digits_end delimits
  | cons c ds ih =>
    have here : c.isDigit = true := digits c List.mem_cons_self
    rw [List.cons_append, scanText_silent (.digits { n with whole := n.whole ++ [c] })]
    · rw [ih fun d mem => digits d (List.mem_cons_of_mem c mem)]
      simp
    · simp [here]

/-- Only zero is written with a leading zero. -/
theorem toDigits_lead {n : Nat} (pos : 0 < n) :
    ∃ c ds, Nat.toDigits 10 n = c :: ds ∧ c ≠ '0' := by
  induction n using Nat.strongRecOn with
  | ind n ih =>
    by_cases small : n < 10
    · have digit : ∀ n < 10, 0 < n → n.digitChar ≠ '0' := by decide
      exact ⟨n.digitChar, [], Nat.toDigits_of_lt_base small, digit n small pos⟩
    · obtain ⟨c, ds, eq, lead⟩ := ih (n / 10) (by omega) (by omega)
      refine ⟨c, ds ++ [(n % 10).digitChar], ?_, lead⟩
      rw [Nat.toDigits_of_base_le (by omega) (by omega), eq]
      rfl

theorem isDigit_of_toDigits {n : Nat} {ds : List Char} (eq : Nat.toDigits 10 n = ds) :
    ∀ c ∈ ds, c.isDigit = true := by
  rw [← eq]
  exact fun c mem => Nat.isDigit_of_mem_toDigits (by decide) (by decide) mem

theorem beginToken_digit (digit : c.isDigit = true) (lead : c ≠ '0') :
    beginToken c = ([], some (.digits ⟨false, [c], [], none⟩)) := by
  have ne (d : Char) (h : d.isDigit = false) : c ≠ d := by
    rintro rfl
    rw [h] at digit
    cases digit
  simp [beginToken, isSpace, digit, lead, ne ' ', ne '\n', ne '\t', ne '\r', ne '\x7b', ne '\x7d',
    ne '[', ne ']', ne ':', ne ',', ne '"', ne '-']

theorem scanText_integer (n : Int) (delimits : Delimits rest) :
    scanText .between (integer n ++ rest) = .number (numeral n) :: scanText .between rest := by
  unfold integer numeral
  by_cases zero : n = 0
  · subst zero
    have digits : Nat.toDigits 10 (Int.natAbs 0) = ['0'] := by decide
    rw [if_neg (by decide), digits, List.cons_append,
      scanText_silent (.zero ⟨false, ['0'], [], none⟩) rfl]
    exact scanText_zero_end delimits
  · obtain ⟨c, ds, eq, lead⟩ := toDigits_lead (n := n.natAbs) (by omega)
    have digits := isDigit_of_toDigits eq
    have first : c.isDigit = true := digits c List.mem_cons_self
    have later : ∀ d ∈ ds, d.isDigit = true := fun d mem => digits d (List.mem_cons_of_mem c mem)
    rw [eq]
    by_cases negative : n < 0
    · rw [if_pos negative, List.cons_append, scanText_silent .minus rfl,
        List.cons_append, scanText_silent (.digits ⟨true, [c], [], none⟩)]
      · rw [scanText_digits later delimits]
        simp [negative]
      · simp [first, lead]
    · rw [if_neg negative, List.cons_append,
        scanText_silent (.digits ⟨false, [c], [], none⟩)]
      · rw [scanText_digits later delimits]
        simp [negative]
      · exact beginToken_digit first lead

/-! ## Literals -/

/-- What the scanner keeps of a character of a literal: controls without an escape of their own are
given by number. -/
def pieceOf (c : Char) : Piece :=
  if c.toNat < 0x20 ∧ c ≠ '\n' ∧ c ≠ '\r' ∧ c ≠ '\t' ∧ c.toNat ≠ 8 ∧ c.toNat ≠ 12 then .unit c.toNat
  else .plain c

theorem pieceOf_cases (c : Char) :
    pieceOf c = .plain c ∨ c.toNat < 0x20 ∧ pieceOf c = .unit c.toNat := by
  unfold pieceOf
  split
  · rename_i control
    exact .inr ⟨control.1, rfl⟩
  · exact .inl rfl

theorem hex4_control : ∀ n < 0x20, hex4 n = ['0', '0', (n / 16).digitChar, (n % 16).digitChar] := by
  decide

theorem hexValue?_digitChar : ∀ n < 16, hexValue? n.digitChar = some n := by decide

theorem scanText_hex {pieces : List Piece} {count value n : Nat} (count_lt : count < 3)
    (small : n < 16) : scanText (.unit pieces count value) (n.digitChar :: rest) =
      scanText (.unit pieces (count + 1) (value * 16 + n)) rest := by
  have more : count ≠ 3 := by omega
  exact scanText_silent _ (by simp [hexValue?_digitChar n small, more])

theorem scanText_hex_last {pieces : List Piece} {value n : Nat} (small : n < 16) :
    scanText (.unit pieces 3 value) (n.digitChar :: rest) =
      scanText (.text (.unit (value * 16 + n) :: pieces)) rest :=
  scanText_silent _ (by simp [hexValue?_digitChar n small])

/-- An escape by number is read if four bytes follow. -/
theorem scanText_opened {pieces : List Piece} (a b c d : Char) :
    scanText (.text pieces) ('\\' :: 'u' :: a :: b :: c :: d :: rest) =
      scanText (.unit pieces 0 0) (a :: b :: c :: d :: rest) := by
  refine (scanText_silent (.escape pieces) rfl).trans (scanText_silent _ ?_)
  have enough : ¬byteCount ([a, b, c, d].map some) < 4 := by
    have := a.utf8Size_pos
    have := b.utf8Size_pos
    have := c.utf8Size_pos
    have := d.utf8Size_pos
    simp only [byteCount, List.map_cons, List.map_nil, List.foldl_cons, List.foldl_nil,
      Option.map_some, Option.getD_some]
    omega
  exact if_neg enough

theorem scanText_unit {pieces : List Piece} {n : Nat} (small : n < 0x20) :
    scanText (.text pieces) ('\\' :: 'u' :: (hex4 n ++ rest)) =
      scanText (.text (.unit n :: pieces)) rest := by
  have zero : '0' = (0).digitChar := rfl
  have value : ((0 * 16 + 0) * 16 + 0) * 16 + n / 16 = n / 16 := by omega
  rw [hex4_control n small]
  simp only [List.cons_append, List.nil_append, scanText_opened, zero]
  rw [scanText_hex (by omega) (by omega), scanText_hex (by omega) (by omega),
    scanText_hex (by omega) (by omega), scanText_hex_last (by omega), value, Nat.div_add_mod']

theorem scanText_escaped {pieces : List Piece} {d : Char} (notUnit : c ≠ 'u')
    (escaped : escapedChar? c = some d) :
    scanText (.text pieces) ('\\' :: c :: rest) = scanText (.text (.plain d :: pieces)) rest :=
  (scanText_silent (.escape pieces) rfl).trans
    (scanText_silent _ (by simp [notUnit, escaped]))

/-- A character of a literal is scanned into one piece. -/
theorem scanText_escapeChar {pieces : List Piece} (c : Char) :
    scanText (.text pieces) (escapeChar c ++ rest) =
      scanText (.text (pieceOf c :: pieces)) rest := by
  by_cases quote : c = '"'
  · subst quote
    exact scanText_escaped (by decide) rfl
  by_cases backslash : c = '\\'
  · subst backslash
    exact scanText_escaped (by decide) rfl
  by_cases newline : c = '\n'
  · subst newline
    exact scanText_escaped (by decide) rfl
  by_cases carriage : c = '\r'
  · subst carriage
    exact scanText_escaped (by decide) rfl
  by_cases tab : c = '\t'
  · subst tab
    exact scanText_escaped (by decide) rfl
  by_cases back : c.toNat = 8
  · have eq : c = Char.ofNat 8 := by rw [← back, Char.ofNat_toNat]
    subst eq
    exact scanText_escaped (by decide) rfl
  by_cases feed : c.toNat = 12
  · have eq : c = Char.ofNat 12 := by rw [← feed, Char.ofNat_toNat]
    subst eq
    exact scanText_escaped (by decide) rfl
  by_cases control : c.toNat < 0x20
  · have escape : escapeChar c = '\\' :: 'u' :: hex4 c.toNat := by
      simp [escapeChar, quote, backslash, newline, carriage, tab, back, feed, control]
    have piece : pieceOf c = .unit c.toNat := if_pos ⟨control, newline, carriage, tab, back, feed⟩
    rw [escape, piece]
    exact scanText_unit control
  · have escape : escapeChar c = [c] := by
      simp [escapeChar, quote, backslash, newline, carriage, tab, back, feed, control]
    have piece : pieceOf c = .plain c := if_neg fun h => control h.1
    rw [escape, piece]
    exact scanText_silent _ (by simp [quote, backslash, control])

theorem scanText_chars {pieces : List Piece} (cs : List Char) :
    scanText (.text pieces) (cs.flatMap escapeChar ++ rest) =
      scanText (.text ((cs.map pieceOf).reverse ++ pieces)) rest := by
  induction cs generalizing pieces with
  | nil => rfl
  | cons c cs ih =>
    rw [List.flatMap_cons, List.append_assoc, scanText_escapeChar, ih]
    simp

/-- No piece of a literal is half of a pair, so each gives its character back. -/
theorem assemble_pieces {cut : Problem} (cs : List Char) :
    assemble cut (cs.map pieceOf) = .ok cs := by
  induction cs with
  | nil => rfl
  | cons c cs ih =>
    rw [List.map_cons]
    rcases pieceOf_cases c with plain | ⟨control, unit⟩
    · rw [plain, assemble, ih]
      rfl
    · have high : isHigh c.toNat = false := by
        simp only [isHigh, Bool.and_eq_false_iff, decide_eq_false_iff_not]
        omega
      have low : isLow c.toNat = false := by
        simp only [isLow, Bool.and_eq_false_iff, decide_eq_false_iff_not]
        omega
      unfold assemble
      simp only [unit, low, high, ih, Char.ofNat_toNat]
      rfl

theorem closeText_pieces (s : String) :
    closeText (s.toList.map pieceOf).reverse = .text (.ok s) := by
  have sound : (s.toList.map pieceOf).reverse.any Piece.isFault = false := by
    simp only [List.any_reverse, List.any_map, List.any_eq_false, Function.comp_apply]
    intro c _
    rcases pieceOf_cases c with plain | ⟨-, unit⟩
    · simp [plain, Piece.isFault]
    · simp [unit, Piece.isFault]
  unfold closeText
  rw [List.reverse_reverse, assemble_pieces, sound]
  exact congrArg (fun s => Token.text (.ok s)) String.ofList_toList

theorem scanText_literal (s : String) :
    scanText .between (literal s ++ rest) = .text (.ok s) :: scanText .between rest := by
  unfold literal
  rw [List.cons_append, scanText_silent (.text []) rfl, List.append_assoc, scanText_chars,
    List.append_nil, List.cons_append, List.nil_append,
    scanText_cons [.text (.ok s)] .between]
  · rfl
  · simp only [Mode.step, if_true, closeText_pieces]

/-! ## Values -/

theorem delimits_cons (h : c.isDigit = false ∧ c ≠ '.' ∧ c ≠ 'e' ∧ c ≠ 'E') :
    Delimits (c :: rest) := by
  intro d eq
  cases eq
  exact h

/-- Blanks, and whatever can stand behind blanks, can stand behind a numeral. -/
theorem Delimits.blank (blank : ∀ c ∈ cs, isSpace c = true) (delimits : Delimits rest) :
    Delimits (cs ++ rest) := by
  cases cs with
  | nil => exact delimits
  | cons c cs =>
    refine delimits_cons ?_
    have space := blank c List.mem_cons_self
    simp only [isSpace, Bool.or_eq_true, decide_eq_true_eq] at space
    rcases space with ((rfl | rfl) | rfl) | rfl <;> decide

variable {sp : Spacing} {indent : Nat}

theorem delimits_items {js : List Json} (delimits : Delimits rest) :
    Delimits (writtenItems sp indent js ++ rest) := by
  cases js with
  | nil =>
    rw [writtenItems]
    exact delimits
  | cons j js =>
    rw [writtenItems]
    exact delimits_cons (by decide)

theorem delimits_members {ms : List (String × Json)} (delimits : Delimits rest) :
    Delimits (writtenMembers sp indent ms ++ rest) := by
  cases ms with
  | nil =>
    rw [writtenMembers]
    exact delimits
  | cons m ms =>
    rw [writtenMembers]
    exact delimits_cons (by decide)

/-- What ends a level is scanned into one token. -/
theorem scanText_close {t : Token}
    (token : Mode.between.step c (rest.map some) = ([t], some .between)) :
    scanText .between (sp.line indent ++ c :: rest) = t :: scanText .between rest := by
  rw [scanText_blank (sp.line_blank indent)]
  exact scanText_cons _ _ token

mutual

theorem scanText_written : ∀ (indent : Nat) (j : Json) {rest : List Char}, Delimits rest →
    scanText .between (written sp indent j ++ rest) = lexemes j ++ scanText .between rest
  | indent, .null, rest, delimits => by
    rw [written, lexemes]
    exact (scanText_silent _ rfl).trans (scanText_word ['u', 'l', 'l'])
  | indent, .bool true, rest, delimits => by
    rw [written, lexemes]
    exact (scanText_silent _ rfl).trans (scanText_word ['r', 'u', 'e'])
  | indent, .bool false, rest, delimits => by
    rw [written, lexemes]
    exact (scanText_silent _ rfl).trans (scanText_word ['a', 'l', 's', 'e'])
  | indent, .number n, rest, delimits => by
    rw [written, lexemes]
    exact scanText_integer n delimits
  | indent, .text s, rest, delimits => by
    rw [written, lexemes]
    exact scanText_literal s
  | indent, .list [], rest, delimits => by
    rw [written, lexemes]
    exact (scanText_cons _ _ rfl).trans (congrArg (_ :: ·) (scanText_cons _ _ rfl))
  | indent, .list (j :: js), rest, delimits => by
    have close : Delimits (sp.line indent ++ ']' :: rest) :=
      .blank (sp.line_blank indent) (delimits_cons (by decide))
    rw [written, lexemes]
    simp only [List.cons_append, List.append_assoc, List.nil_append]
    rw [scanText_cons [.leftBracket] _ rfl, scanText_blank (sp.line_blank (indent + 2)),
      scanText_written (indent + 2) j (delimits_items close),
      scanText_writtenItems (indent + 2) js close, scanText_close rfl]
    rfl
  | indent, .object [], rest, delimits => by
    rw [written, lexemes]
    exact (scanText_cons _ _ rfl).trans (congrArg (_ :: ·) (scanText_cons _ _ rfl))
  | indent, .object ((k, j) :: ms), rest, delimits => by
    have close : Delimits (sp.line indent ++ '\x7d' :: rest) :=
      .blank (sp.line_blank indent) (delimits_cons (by decide))
    rw [written, lexemes]
    simp only [List.cons_append, List.append_assoc, List.nil_append]
    rw [scanText_cons [.leftBrace] _ rfl, scanText_blank (sp.line_blank (indent + 2)),
      scanText_literal, scanText_cons [.colon] _ rfl, scanText_blank sp.gap_blank,
      scanText_written (indent + 2) j (delimits_members close),
      scanText_writtenMembers (indent + 2) ms close, scanText_close rfl]
    rfl

theorem scanText_writtenItems : ∀ (indent : Nat) (js : List Json) {rest : List Char},
    Delimits rest → scanText .between (writtenItems sp indent js ++ rest) =
      itemLexemes js ++ scanText .between rest
  | indent, [], rest, delimits => by
    rw [writtenItems, itemLexemes]
    rfl
  | indent, j :: js, rest, delimits => by
    rw [writtenItems, itemLexemes]
    simp only [List.cons_append, List.append_assoc]
    rw [scanText_cons [.comma] _ rfl, scanText_blank (sp.line_blank indent),
      scanText_written indent j (delimits_items delimits),
      scanText_writtenItems indent js delimits]
    rfl

theorem scanText_writtenMembers : ∀ (indent : Nat) (ms : List (String × Json)) {rest : List Char},
    Delimits rest → scanText .between (writtenMembers sp indent ms ++ rest) =
      memberLexemes ms ++ scanText .between rest
  | indent, [], rest, delimits => by
    rw [writtenMembers, memberLexemes]
    rfl
  | indent, (k, j) :: ms, rest, delimits => by
    rw [writtenMembers, memberLexemes]
    simp only [List.cons_append, List.append_assoc]
    rw [scanText_cons [.comma] _ rfl, scanText_blank (sp.line_blank indent),
      scanText_literal, scanText_cons [.colon] _ rfl, scanText_blank sp.gap_blank,
      scanText_written indent j (delimits_members delimits),
      scanText_writtenMembers indent ms delimits]
    rfl

end

/-- The tokens of a document are those of the value that was written to it. -/
theorem Written.tokens {j : Json} {document : String} (writes : j.Written document) :
    tokens (document.toList.map some) = lexemes j := by
  have scanned (sp : Spacing) : scanText .between (written sp 0 j) = lexemes j := by
    have scanned := @scanText_written sp 0 j [] delimits_nil
    simpa [Mode.finish] using scanned
  cases writes with
  | compact =>
    rw [String.toList_ofList, compact_eq 0]
    exact scanned .none
  | pretty =>
    rw [Json.pretty, String.toList_ofList, prettyAt_eq 0]
    exact scanned .lines

end Testbed.Json
