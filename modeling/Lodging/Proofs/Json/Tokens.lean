import Lodging.Json.Lexer
import Lodging.Json.Printer
import Lodging.Proofs.Json.Numerals

/-! # Tokens of what is written

What a document is written with is read one token at a time: from a gap over the characters of a token to
the next gap. A word or a numeral has no end of its own, so what follows it has to show that it is over. -/

namespace Lodging.Json

/-! ## The lexer between two gaps -/

def Lexer.finish (l : Lexer) (s : List Char) : Option (List Token) := (s.foldlM step l).bind close?

theorem Lexer.finish_cons {l l' : Lexer} {c : Char} (h : l.step c = some l') (s : List Char) :
    l.finish (c :: s) = l'.finish s := by
  rw [finish, List.foldlM_cons, h]
  rfl

theorem Lexer.step_number {c : Char} (h : isNumeric c = true) (ts : List Token) (s : List Char) :
    step ⟨ts, .number s⟩ c = some ⟨ts, .number (c :: s)⟩ :=
  if_pos h

/-- From a gap, the first part of the text is one token. -/
def Spells (t : Token) (s after : List Char) : Prop :=
  ∀ ts, Lexer.finish ⟨ts, .gap⟩ s = Lexer.finish ⟨t :: ts, .gap⟩ after

/-- What follows cannot be part of a word or a numeral. -/
def Delimited (after : List Char) : Prop :=
  ∀ c ∈ after.head?, isNumeric c = false ∧ c.isLower = false

theorem delimited_nil : Delimited [] := by
  intro c h
  cases h

theorem delimited_cons {c : Char} (h : isNumeric c = false ∧ c.isLower = false) (s : List Char) :
    Delimited (c :: s) := by
  intro d hd
  obtain rfl : c = d := Option.some.inj hd
  exact h

/-- A token without an end of its own ends where the delimiter begins. -/
theorem Lexer.finish_of_close {l : Lexer} {ts : List Token} {after : List Char}
    (hclose : l.close? = some ts) (hstep : ∀ c ∈ after.head?, l.step c = l.close?.bind (begin · c)) :
    l.finish after = finish ⟨ts, .gap⟩ after := by
  cases after with
  | nil => exact hclose
  | cons c s =>
    have hbegin : l.step c = step ⟨ts, .gap⟩ c := by
      rw [hstep c rfl, hclose]
      rfl
    rw [finish, finish, List.foldlM_cons, List.foldlM_cons, hbegin]

/-! ## Marks and words -/

theorem spells_mark {t : Token} {c : Char} (h : ∀ ts, Lexer.begin ts c = some ⟨t :: ts, .gap⟩)
    (after : List Char) : Spells t (c :: after) after :=
  fun ts => Lexer.finish_cons (show Lexer.step ⟨ts, .gap⟩ c = _ from h ts) after

theorem spells_word {t : Token} {s : List Char} (hword : word? s = some t)
    (hrun : ∀ ts after, Lexer.finish ⟨ts, .gap⟩ (s ++ after) =
      Lexer.finish ⟨ts, .word s.reverse⟩ after)
    {after : List Char} (hafter : Delimited after) : Spells t (s ++ after) after := by
  intro ts
  rw [hrun]
  refine Lexer.finish_of_close ?_ fun c hc => if_neg (Bool.eq_false_iff.mp (hafter c hc).2)
  show (word? s.reverse.reverse).map (· :: ts) = _
  rw [List.reverse_reverse, hword]
  rfl

theorem spells_null {after : List Char} (h : Delimited after) :
    Spells .null ("null".toList ++ after) after :=
  spells_word rfl (fun _ _ => rfl) h

theorem spells_bool (b : Bool) {after : List Char} (h : Delimited after) :
    Spells (.bool b) (onto after (.bool b)) after := by
  cases b with
  | false => exact spells_word (s := "false".toList) rfl (fun _ _ => rfl) h
  | true => exact spells_word (s := "true".toList) rfl (fun _ _ => rfl) h

/-! ## Numerals -/

theorem Lexer.finish_number {s : List Char} (h : ∀ c ∈ s, isNumeric c = true) (ts : List Token)
    (before after : List Char) : finish ⟨ts, .number before⟩ (s ++ after) =
      finish ⟨ts, .number (s.reverse ++ before)⟩ after := by
  induction s generalizing before with
  | nil => rfl
  | cons c s ih =>
    obtain ⟨hc, hs⟩ := List.forall_mem_cons.mp h
    rw [List.cons_append, finish_cons (step_number hc ts before), ih hs, List.reverse_cons,
      List.append_assoc]
    rfl

theorem begin_numeric {c : Char} (h : c = '-' ∨ c.isDigit = true) (ts : List Token) :
    Lexer.begin ts c = some ⟨ts, .number [c]⟩ := by
  unfold Lexer.begin
  split
  case h_12 => exact if_pos h
  all_goals exact absurd h (by decide)

theorem finish_numeric {s : List Char} (h : Numeric s) (ts : List Token) (after : List Char) :
    Lexer.finish ⟨ts, .gap⟩ (s ++ after) = Lexer.finish ⟨ts, .number s.reverse⟩ after := by
  obtain ⟨⟨c, rest, rfl, hc⟩, hall⟩ := h
  have hrest : ∀ d ∈ rest, isNumeric d = true := (List.forall_mem_cons.mp hall).2
  have hstep : Lexer.step ⟨ts, .gap⟩ c = some ⟨ts, .number [c]⟩ := begin_numeric hc ts
  rw [List.cons_append, Lexer.finish_cons hstep, Lexer.finish_number hrest, List.reverse_cons]

theorem spells_numeral {s : List Char} {n : Decimal.Numeral} (h : Numeric s)
    (hn : numeral? s = some n) {after : List Char} (hafter : Delimited after) :
    Spells (.numeral n) (s ++ after) after := by
  intro ts
  rw [finish_numeric h]
  refine Lexer.finish_of_close ?_ fun c hc => if_neg (Bool.eq_false_iff.mp (hafter c hc).1)
  show (numeral? s.reverse.reverse).map (.numeral · :: ts) = _
  rw [List.reverse_reverse, hn]
  rfl

/-! ## Texts -/

/-- The two digits of a control character, after the two zeros before them. -/
theorem Lexer.finish_code {n : Nat} (h : n < 256) (ts : List Token) (before : List Piece)
    (after : List Char) :
    finish ⟨ts, .code before 0 2⟩ (Text.hexChar 'a' (n / 16) :: Text.hexChar 'a' (n % 16) :: after) =
      finish ⟨ts, .text (.unit n :: before)⟩ after := by
  have hfirst : step ⟨ts, .code before 0 2⟩ (Text.hexChar 'a' (n / 16)) =
      some ⟨ts, .code before (n / 16) 1⟩ := by
    simp [step, Text.hexValue?_hexChar List.mem_cons_self (n / 16) (by omega)]
  have hsecond : step ⟨ts, .code before (n / 16) 1⟩ (Text.hexChar 'a' (n % 16)) =
      some ⟨ts, .text (.unit n :: before)⟩ := by
    simp only [step, Text.hexValue?_hexChar List.mem_cons_self (n % 16) (by omega),
      Option.map_some, Nat.le_refl, if_true]
    rw [show n / 16 * 16 + n % 16 = n by omega]
  rw [finish_cons hfirst, finish_cons hsecond]

theorem assemble_unit {c : Char} (h : c.toNat < 0xD800) (before : List Piece) (out : List Char) :
    assemble (.unit c.toNat :: before) out = assemble before (c :: out) := by
  conv => lhs; unfold assemble
  rw [if_pos (Or.inl h), Char.ofNat_toNat]

/-- Inside a text, an escaped character is read as one piece that stands for it. -/
theorem exists_piece (c : Char) : ∃ p,
    (∀ before out, assemble (p :: before) out = assemble before (c :: out)) ∧
    ∀ ts before after, Lexer.finish ⟨ts, .text before⟩ (escaped c ++ after) =
      Lexer.finish ⟨ts, .text (p :: before)⟩ after := by
  unfold escaped
  split
  case h_8 hquote hbackslash _ _ _ _ _ =>
    split
    · next hcontrol =>
      exact ⟨.unit c.toNat, assemble_unit (by omega), fun ts before after =>
        Lexer.finish_code (by omega) ts before after⟩
    · next hcontrol =>
      refine ⟨.char c, fun _ _ => rfl, fun ts before after => Lexer.finish_cons ?_ after⟩
      exact (if_neg hquote).trans ((if_neg hbackslash).trans (if_neg hcontrol))
  all_goals exact ⟨.char _, fun _ _ => rfl, fun _ _ _ => rfl⟩

theorem exists_pieces (s : List Char) (before : List Piece) : ∃ pieces,
    (∀ out, assemble pieces out = assemble before (s ++ out)) ∧
    ∀ ts after, Lexer.finish ⟨ts, .text before⟩ (s.foldr (fun c after => escaped c ++ after) after) =
      Lexer.finish ⟨ts, .text pieces⟩ after := by
  induction s generalizing before with
  | nil => exact ⟨before, fun _ => rfl, fun _ _ => rfl⟩
  | cons c s ih =>
    obtain ⟨p, hpiece, hread⟩ := exists_piece c
    obtain ⟨pieces, hpieces, hrest⟩ := ih (p :: before)
    refine ⟨pieces, fun out => ?_, fun ts after => ?_⟩
    · rw [hpieces, hpiece, List.cons_append]
    · rw [List.foldr_cons, hread, hrest]

theorem spells_text (s : String) (after : List Char) : Spells (.text (some s)) (textOnto s after) after := by
  intro ts
  obtain ⟨pieces, hpieces, hread⟩ := exists_pieces s.toList []
  have hwhole : (assemble pieces []).map String.ofList = some s := by
    rw [hpieces, List.append_nil, assemble, Option.map_some, String.ofList_toList]
  have hclose : Lexer.step ⟨ts, .text pieces⟩ '"' = some ⟨.text (some s) :: ts, .gap⟩ := by
    rw [← hwhole]
    rfl
  have hopen : Lexer.step ⟨ts, .gap⟩ '"' = some ⟨ts, .text []⟩ := rfl
  rw [textOnto, Lexer.finish_cons hopen, hread, Lexer.finish_cons hclose]

end Lodging.Json
