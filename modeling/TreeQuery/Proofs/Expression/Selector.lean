import Mathlib.Algebra.Group.Int.Defs
import Mathlib.Algebra.Group.Nat.Defs
import TreeQuery.Proofs.Expression.Suffix
import TreeQuery.Proofs.Number.Digits
import TreeQuery.Proofs.Result

namespace TreeQuery

/-- The flags are letters that there are, and the body can be read with them. -/
def Pattern.WellFormed (p : Pattern) : Prop :=
  (∀ c ∈ p.flags.toList, c = 'i' ∨ c = 'm' ∨ c = 's' ∨ c = 'x') ∧
    ∃ regex, Regex.compile p.body p.flags = .ok regex

/-- A literal text does not look as if it had a type; the name of a type ends before a colon. -/
def Literal.WellFormed : Literal → Prop
  | .plain text => text.toList.head? ≠ some ':'
  | .typed typeName _ => typeName ≠ "" ∧ ':' ∉ typeName.toList

/-- Numbers have 64 bits, offsets one of them for the sign, and no name of an ancestor is empty. -/
def Selector.WellFormed : Selector Literal → Prop
  | .ancestor name => name ≠ ""
  | .numbered i => i < 2 ^ 64
  | .sibling offset => -(2 ^ 63 - 1) ≤ offset ∧ offset ≤ 2 ^ 63 - 1
  | .equals l => l.WellFormed
  | .nameMatches p | .valueMatches p => p.WellFormed
  | .range start stop => (∀ i ∈ start, i < 2 ^ 64) ∧ ∀ i ∈ stop, i < 2 ^ 64
  | .everyNth n => 1 ≤ n ∧ n < 2 ^ 64
  | _ => True

theorem Regex.Flags.letters_of_ofLetters {flags flags' : Flags} {cs : List Char}
    (h : flags.ofLetters cs = .ok flags') : ∀ c ∈ cs, c = 'i' ∨ c = 'm' ∨ c = 's' ∨ c = 'x' := by
  induction cs generalizing flags with
  | nil => exact nofun
  | cons c cs ih =>
    rw [ofLetters] at h
    split at h
    · next hc => exact List.forall_mem_cons.2 ⟨hc, ih h⟩
    · exact absurd h nofun

theorem Pattern.wellFormed (p : Pattern) : p.WellFormed := by
  refine ⟨?_, p.regex, p.compiles⟩
  have h := p.compiles
  rw [Regex.compile] at h
  cases hf : Regex.Flags.ofLetters {} p.flags.toList with
  | error e => rw [hf] at h; exact absurd h nofun
  | ok flags => exact Regex.Flags.letters_of_ofLetters hf

theorem Pattern.compile_self (p : Pattern) : Pattern.compile p.body p.flags = .ok p := by
  unfold Pattern.compile
  split
  · next regex h =>
    obtain rfl := Except.ok.inj (h.symm.trans p.compiles)
    rfl
  · next e h => exact absurd (h.symm.trans p.compiles) nofun

namespace Selector

theorem isDigits_iff {cs : List Char} :
    isDigits cs = true ↔ cs ≠ [] ∧ cs.all Char.isDigit = true := by
  rw [isDigits, Bool.and_eq_true]
  cases cs <;> simp

theorem isDigits_toDigits (n : Nat) : isDigits (Nat.toDigits 10 n) = true :=
  isDigits_iff.2 ⟨Nat.toDigits_ne_nil, Integer.all_isDigit_toDigits n⟩

theorem readNatural_of_isDigits {cs : List Char} (hd : isDigits cs = true) (limit : Nat) :
    (Integer.ofDigits cs ≤ limit ∧
      Integer.readNatural limit cs = .ok (Integer.ofDigits cs)) ∨
    limit < Integer.ofDigits cs ∧ ∃ e, Integer.readNatural limit cs = .error e := by
  obtain ⟨hne, hall⟩ := isDigits_iff.1 hd
  have hread (m : Nat) : Integer.readNatural limit cs = .ok m ↔ Integer.ofDigits cs = m ∧ m ≤ limit :=
    Integer.readNatural_eq_ok_iff hne hall
  by_cases hle : Integer.ofDigits cs ≤ limit
  · exact .inl ⟨hle, (hread _).2 ⟨rfl, hle⟩⟩
  · refine .inr ⟨Nat.lt_of_not_le hle, ?_⟩
    cases h : Integer.readNatural limit cs with
    | error e => exact ⟨e, rfl⟩
    | ok m =>
      obtain ⟨rfl, hm⟩ := (hread m).1 h
      exact absurd hm hle

theorem number_of_isDigits {cs : List Char} (hd : isDigits cs = true) :
    number cs = if Integer.ofDigits cs < 2 ^ 64 then .ok (Integer.ofDigits cs)
      else .error (.numberTooLarge (String.ofList cs)) := by
  rw [number, hd, Bool.not_true, if_neg Bool.false_ne_true]
  rcases readNatural_of_isDigits hd Integer.maxNatural with ⟨hle, h⟩ | ⟨hlt, e, h⟩
  · rw [h, if_pos (by rw [Integer.maxNatural] at hle; omega)]
  · rw [h, if_neg (by rw [Integer.maxNatural] at hlt; omega)]

theorem offset_of_isDigits (sign : Int) {cs : List Char} (hd : isDigits cs = true) :
    offset sign cs = if Integer.ofDigits cs < 2 ^ 63 then .ok (sign * Integer.ofDigits cs)
      else .error (.offsetTooLarge (String.ofList cs)) := by
  rw [offset]
  rcases readNatural_of_isDigits hd Integer.maxInteger with ⟨hle, h⟩ | ⟨hlt, e, h⟩
  · rw [h, if_pos (by rw [Integer.maxInteger] at hle; omega)]
  · rw [h, if_neg (by rw [Integer.maxInteger] at hlt; omega)]

theorem lt_of_number {cs : List Char} {n : Nat} (h : number cs = .ok n) : n < 2 ^ 64 := by
  cases hd : isDigits cs with
  | false => simp [number, hd] at h
  | true =>
    rw [number_of_isDigits hd] at h
    split at h
    · next hlt => exact Except.ok.inj h ▸ hlt
    · exact absurd h nofun

theorem wellFormed_of_bound {cs : List Char} {b : Option Nat} (h : bound cs = .ok b) :
    ∀ i ∈ b, i < 2 ^ 64 := by
  rw [bound] at h
  split at h
  · obtain rfl := Except.ok.inj h
    exact fun i hi => absurd hi (Option.not_mem_none i)
  · obtain ⟨n, hn, h⟩ := ok_of_bind h
    obtain rfl := Except.ok.inj h
    intro i hi
    obtain rfl := Option.some.inj hi
    exact lt_of_number hn

theorem wellFormed_of_range? {cs : List Char} {s : Selector Literal} (h : range? cs = .ok s) :
    s.WellFormed := by
  rw [range?] at h
  split at h
  · obtain ⟨start, hstart, h⟩ := ok_of_bind h
    obtain ⟨stop, hstop, h⟩ := ok_of_bind h
    obtain rfl := Except.ok.inj h
    exact ⟨wellFormed_of_bound hstart, wellFormed_of_bound hstop⟩
  · exact absurd h nofun

theorem wellFormed_of_literal {cs : List Char} {l : Literal} (h : literal cs = .ok l) :
    l.WellFormed := by
  unfold literal at h
  split at h
  · split at h
    · next c name text hcut =>
      obtain rfl := Except.ok.inj h
      obtain ⟨-, hname⟩ := cutAt?_eq_some_iff.1 hcut
      refine ⟨fun he => ?_, by rwa [String.toList_ofList]⟩
      exact absurd (congrArg String.toList he) (by simp)
    · cases h
  · next hcolon =>
    obtain rfl := Except.ok.inj h
    intro hhead
    rw [String.toList_ofList] at hhead
    cases cs with
    | nil => cases hhead
    | cons c cs => exact hcolon cs (congrArg (· :: cs) (Option.some.inj hhead))

theorem wellFormed_of_offset {sign : Int} (hsign : sign = 1 ∨ sign = -1) {cs : List Char}
    (hd : isDigits cs = true) {i : Int} (h : offset sign cs = .ok i) :
    (sibling i : Selector Literal).WellFormed := by
  rw [offset_of_isDigits sign hd] at h
  split at h
  · obtain rfl := Except.ok.inj h
    rw [WellFormed]
    rcases hsign with rfl | rfl <;> omega
  · exact absurd h nofun

/-- Letters that have no other reading than a name. -/
structure IsName (letters : List Char) : Prop where
  stars : letters ≠ ['*', '*']
  points : ∀ name, letters ≠ '.' :: '.' :: name
  digits : isDigits letters = false
  plus : ∀ rest, letters = '+' :: rest → isDigits rest = false
  minus : ∀ rest, letters = '-' :: rest → isDigits rest = false
  bracket : ∀ rest, letters ≠ '[' :: rest
  percent : ∀ rest, letters ≠ '%' :: rest
  equals : ∀ rest, letters ≠ '=' :: rest

/-- How the letters of a word are read. -/
inductive Reading : List Char → Selector Literal → Prop
  | children : Reading ['*'] .children
  | descendants : Reading ['*', '*'] .descendants
  | parent : Reading ['.'] .parent
  | root : Reading ['.', '.'] .root
  | after : Reading ['+'] (.sibling 1)
  | before : Reading ['-'] (.sibling (-1))
  | previous : Reading ['<'] .previous
  | next : Reading ['>'] .next
  | reference : Reading ['#'] .reference
  | ancestor {name : List Char} (h : name ≠ []) :
      Reading ('.' :: '.' :: name) (.ancestor (String.ofList name))
  | numbered {digits : List Char} {n : Nat} (hdigits : isDigits digits = true)
      (h : number digits = .ok n) : Reading digits (.numbered n)
  | sibling {c : Char} {digits : List Char} {sign i : Int}
      (hsign : c = '+' ∧ sign = 1 ∨ c = '-' ∧ sign = -1) (hdigits : isDigits digits = true)
      (h : offset sign digits = .ok i) : Reading (c :: digits) (.sibling i)
  | range {cs : List Char} {s : Selector Literal} (h : range? cs = .ok s) : Reading ('[' :: cs) s
  | everyNth {cs : List Char} {n : Nat} (h : number cs = .ok n) (hn : n ≠ 0) :
      Reading ('%' :: cs) (.everyNth n)
  | equals {cs : List Char} {l : Literal} (h : literal cs = .ok l) :
      Reading ('=' :: cs) (.equals l)
  | named {letters : List Char} (h : IsName letters) :
      Reading letters (.named (String.ofList letters))

theorem isName_cons {c : Char} {rest : List Char} (hstars : c :: rest ≠ ['*', '*'])
    (hpoints : ∀ name, c :: rest ≠ '.' :: '.' :: name) (hdigits : ¬ isDigits (c :: rest) = true)
    (hplus : ¬ (c = '+' ∧ isDigits rest = true)) (hminus : ¬ (c = '-' ∧ isDigits rest = true))
    (hbracket : c ≠ '[') (hpercent : c ≠ '%') (hequals : c ≠ '=') : IsName (c :: rest) where
  stars := hstars
  points := hpoints
  digits := Bool.eq_false_iff.2 hdigits
  plus := by
    rintro _ ⟨⟩
    exact Bool.eq_false_iff.2 fun hd => hplus ⟨rfl, hd⟩
  minus := by
    rintro _ ⟨⟩
    exact Bool.eq_false_iff.2 fun hd => hminus ⟨rfl, hd⟩
  bracket _ he := hbracket (List.cons.inj he).1
  percent _ he := hpercent (List.cons.inj he).1
  equals _ he := hequals (List.cons.inj he).1

theorem reading_of_ofWord {letters : List Char} {s : Selector Literal}
    (h : ofWord letters = .ok s) : Reading letters s := by
  unfold ofWord at h
  split at h
  case h_10 name hname =>
    obtain rfl := Except.ok.inj h
    exact .ancestor fun he => hname (he ▸ rfl)
  case h_11 hstars _ _ _ _ _ _ _ hpoints =>
    split at h
    · next hdigits =>
      obtain ⟨n, hn, rfl⟩ := ok_of_map h
      exact .numbered hdigits hn
    next hdigits =>
    split at h
    · obtain rfl := Except.ok.inj h
      exact .named ⟨nofun, nofun, rfl, nofun, nofun, nofun, nofun, nofun⟩
    -- what is left is told by the first letter
    split at h
    · next hplus =>
      obtain ⟨i, hi, rfl⟩ := ok_of_map h
      exact .sibling (.inl ⟨hplus.1, rfl⟩) hplus.2 hi
    split at h
    · next hminus =>
      obtain ⟨i, hi, rfl⟩ := ok_of_map h
      exact .sibling (.inr ⟨hminus.1, rfl⟩) hminus.2 hi
    split at h
    · next hbracket => exact hbracket ▸ .range h
    split at h
    · next hpercent =>
      obtain ⟨n, hn, h⟩ := ok_of_bind h
      split at h
      · cases h
      · next hzero =>
        obtain rfl := Except.ok.inj h
        exact hpercent ▸ .everyNth hn hzero
    split at h
    · next hequals =>
      obtain ⟨l, hl, rfl⟩ := ok_of_map h
      exact hequals ▸ .equals hl
    split at h
    · cases h
    · next hplus hminus hbracket hpercent hequals _ _ =>
      obtain rfl := Except.ok.inj h
      exact .named (isName_cons hstars hpoints hdigits hplus hminus hbracket hpercent hequals)
  -- the other symbols stand for one selector each
  all_goals
    obtain rfl := Except.ok.inj h
    constructor

theorem wellFormed_of_ofWord {cs : List Char} {s : Selector Literal} (h : ofWord cs = .ok s) :
    s.WellFormed := by
  cases reading_of_ofWord h with
  | ancestor hname =>
    refine fun he => hname ?_
    have hnil := congrArg String.toList he
    rwa [String.toList_ofList] at hnil
  | numbered _ hn => exact lt_of_number hn
  | sibling hsign hdigits hi =>
    exact wellFormed_of_offset (hsign.imp And.right And.right) hdigits hi
  | range hrange => exact wellFormed_of_range? hrange
  | everyNth hn hzero => exact ⟨Nat.pos_of_ne_zero hzero, lt_of_number hn⟩
  | equals hl => exact wellFormed_of_literal hl
  | _ => simp [WellFormed]

theorem wellFormed_of_ofLiteral {cs : List Char} {s : Selector Literal}
    (h : ofLiteral cs = .ok s) : s.WellFormed := by
  unfold ofLiteral at h
  split at h
  · obtain rfl := Except.ok.inj h
    exact trivial
  dsimp only at h
  split at h
  · obtain ⟨p, -, rfl⟩ := ok_of_map h
    exact p.wellFormed
  · obtain ⟨p, -, rfl⟩ := ok_of_map h
    exact p.wellFormed
  · exact wellFormed_of_ofWord h

def patternText (p : Pattern) : List Char := '/' :: p.body.toList ++ '/' :: p.flags.toList

def boundText : Option Nat → List Char
  | none => []
  | some n => Nat.toDigits 10 n

def literalText : Literal → List Char
  | .plain text => text.toList
  | .typed typeName text => ':' :: typeName.toList ++ ':' :: text.toList

/-- A text that stands for a selector: as a word if it compares with a literal, else as a literal.
(A literal that compares with a text between slashes would be a pattern.) -/
def text : Selector Literal → List Char
  | children => ['*']
  | descendants => ['*', '*']
  | parent => ['.']
  | root => ['.', '.']
  | ancestor name => '.' :: '.' :: name.toList
  | numbered i => Nat.toDigits 10 i
  | sibling offset =>
    if 0 ≤ offset then '+' :: Nat.toDigits 10 offset.toNat
    else '-' :: Nat.toDigits 10 (-offset).toNat
  | previous => ['<']
  | next => ['>']
  | reference => ['#']
  | named name => '\\' :: name.toList
  | equals l => '=' :: literalText l
  | nameMatches p => patternText p
  | valueMatches p => '=' :: patternText p
  | range start stop => '[' :: boundText start ++ ',' :: boundText stop ++ [']']
  | everyNth n => '%' :: Nat.toDigits 10 n

theorem number_toDigits {n : Nat} (h : n < 2 ^ 64) : number (Nat.toDigits 10 n) = .ok n := by
  rw [number_of_isDigits (isDigits_toDigits n), Integer.ofDigits_toDigits, if_pos h]

theorem offset_toDigits (sign : Int) {n : Nat} (h : n < 2 ^ 63) :
    offset sign (Nat.toDigits 10 n) = .ok (sign * n) := by
  rw [offset_of_isDigits sign (isDigits_toDigits n), Integer.ofDigits_toDigits, if_pos h]

theorem bound_of_isDigits {cs : List Char} (hd : isDigits cs = true) :
    bound cs = some <$> number cs := by
  obtain ⟨hne, hall⟩ := isDigits_iff.1 hd
  rw [bound, Text.trim_of_not_blank fun c hc =>
    Text.isBlank_of_isDigit (List.all_eq_true.1 hall c hc)]
  split
  · exact absurd rfl hne
  · rfl

theorem bound_boundText {b : Option Nat} (h : ∀ i ∈ b, i < 2 ^ 64) : bound (boundText b) = .ok b := by
  cases b with
  | none => rfl
  | some n =>
    rw [boundText, bound_of_isDigits (isDigits_toDigits n), number_toDigits (h n rfl)]
    rfl

theorem range?_boundText {start stop : Option Nat} (hstart : ∀ i ∈ start, i < 2 ^ 64)
    (hstop : ∀ i ∈ stop, i < 2 ^ 64) :
    range? (boundText start ++ ',' :: boundText stop ++ [']']) = .ok (.range start stop) := by
  have hcomma : ',' ∉ boundText start := by
    cases start with
    | none => exact List.not_mem_nil
    | some n =>
      exact fun hc => absurd (List.all_eq_true.1 (Integer.all_isDigit_toDigits n) _ hc) (by decide)
  have hcut : cutAt? ',' (boundText start ++ ',' :: boundText stop) =
      some (boundText start, boundText stop) := cutAt?_eq_some_iff.2 ⟨rfl, hcomma⟩
  rw [range?, List.getLast?_concat, List.dropLast_concat, hcut]
  show (do return Selector.range (← bound (boundText start)) (← bound (boundText stop))) = _
  rw [bound_boundText hstart, bound_boundText hstop]
  rfl

theorem literal_literalText {l : Literal} (h : l.WellFormed) : literal (literalText l) = .ok l := by
  cases l with
  | plain text =>
    rw [literalText]
    unfold literal
    split
    · next typed htext => exact absurd (congrArg List.head? htext) h
    · rw [String.ofList_toList]
  | typed typeName text =>
    obtain ⟨hne, hcolon⟩ := h
    have hcut : cutAt? ':' (typeName.toList ++ ':' :: text.toList) =
        some (typeName.toList, text.toList) := cutAt?_eq_some_iff.2 ⟨rfl, hcolon⟩
    rw [literalText, List.cons_append, literal, hcut]
    cases hname : typeName.toList with
    | nil => exact absurd (String.toList_eq_nil_iff.1 hname) hne
    | cons c name =>
      dsimp only
      rw [← hname, String.ofList_toList, String.ofList_toList]

theorem patternParts?_patternText (p : Pattern) :
    patternParts? (patternText p) = some (p.body.toList, p.flags.toList) := by
  have hslash : '/' ∉ p.flags.toList := fun h => by
    rcases p.wellFormed.1 _ h with h | h | h | h <;> exact absurd h (by decide)
  show cutAtLast? '/' (p.body.toList ++ '/' :: p.flags.toList) = _
  exact cutAtLast?_eq_some_iff.2 ⟨rfl, hslash⟩

theorem pattern_parts (p : Pattern) : pattern (p.body.toList, p.flags.toList) = .ok p := by
  rw [pattern, String.ofList_toList, String.ofList_toList, p.compile_self]

theorem ofWord_of_isDigits {cs : List Char} (h : isDigits cs = true) :
    ofWord cs = .numbered <$> number cs := by
  unfold ofWord
  split
  case h_11 => rw [if_pos h]
  all_goals exact absurd h (by simp [isDigits])

-- A sign alone would be an offset of one.
theorem ofWord_plus {cs : List Char} (h : isDigits cs = true) :
    ofWord ('+' :: cs) = .sibling <$> offset 1 cs := by
  match cs with
  | c :: rest =>
    show (if '+' = '+' ∧ isDigits (c :: rest) = true then _ else _) = _
    rw [if_pos ⟨rfl, h⟩]

theorem ofWord_minus {cs : List Char} (h : isDigits cs = true) :
    ofWord ('-' :: cs) = .sibling <$> offset (-1) cs := by
  match cs with
  | c :: rest =>
    show (if '-' = '-' ∧ isDigits (c :: rest) = true then _ else _) = _
    rw [if_pos ⟨rfl, h⟩]

theorem ofWord_percent (cs : List Char) :
    ofWord ('%' :: cs) = (number cs).bind fun n =>
      if n = 0 then .error .zeroModulo else .ok (.everyNth n) := by
  show (number cs).bind _ = _
  cases number cs with
  | error e => rfl
  | ok n => cases n <;> rfl

theorem ofWord_sibling {offset : Int} (h : (sibling offset).WellFormed) :
    ofWord (sibling offset).text = .ok (sibling offset) := by
  rw [WellFormed] at h
  rw [text]
  split
  · rw [ofWord_plus (isDigits_toDigits _), offset_toDigits 1 (by omega)]
    exact congrArg (fun i => Except.ok (sibling i)) (by omega)
  · rw [ofWord_minus (isDigits_toDigits _), offset_toDigits (-1) (by omega)]
    exact congrArg (fun i => Except.ok (sibling i)) (by omega)

theorem ofWord_text {s : Selector Literal} (h : s.WellFormed) (hname : ∀ name, s ≠ named name)
    (hp : ∀ p, s ≠ nameMatches p) (hp' : ∀ p, s ≠ valueMatches p) : ofWord s.text = .ok s := by
  cases s with
  | ancestor name =>
    cases hchars : name.toList with
    | nil => exact absurd (String.toList_eq_nil_iff.1 hchars) h
    | cons c rest =>
      rw [text, hchars]
      show Except.ok (ancestor _) = _
      rw [← hchars, String.ofList_toList]
  | numbered i =>
    rw [text, ofWord_of_isDigits (isDigits_toDigits i), number_toDigits h]
    rfl
  | sibling offset => exact ofWord_sibling h
  | named name => exact absurd rfl (hname name)
  | equals l =>
    show equals <$> literal (literalText l) = _
    rw [literal_literalText h]
    rfl
  | nameMatches p => exact absurd rfl (hp p)
  | valueMatches p => exact absurd rfl (hp' p)
  | range start stop =>
    exact range?_boundText h.1 h.2
  | everyNth n =>
    rw [text, ofWord_percent, number_toDigits h.2, Except.bind, if_neg (Nat.ne_of_gt h.1)]
  | _ => rfl

/-- A literal that does not begin as a name, a pattern or a comparison stands for what a word does. -/
theorem ofLiteral_eq_ofWord {cs : List Char} (h : ∀ c ∈ cs.head?, c ≠ '\\' ∧ c ≠ '/' ∧ c ≠ '=') :
    ofLiteral cs = ofWord cs := by
  match cs with
  | [] => rfl
  | c :: rest =>
    obtain ⟨hname, hslash, hequals⟩ := h c rfl
    have hparts : patternParts? (c :: rest) = none := by simp [patternParts?, hslash]
    unfold ofLiteral
    split
    · next heq => exact absurd (List.cons.inj heq).1 hname
    · simp [hparts, hequals]

theorem not_mark_of_isDigit {c : Char} (h : c.isDigit = true) : c ≠ '\\' ∧ c ≠ '/' ∧ c ≠ '=' := by
  refine ⟨?_, ?_, ?_⟩ <;> rintro rfl <;> exact absurd h (by decide)

theorem head?_text {s : Selector Literal} (hname : ∀ name, s ≠ named name)
    (hp : ∀ p, s ≠ nameMatches p) (hp' : ∀ p, s ≠ valueMatches p) (hl : ∀ l, s ≠ equals l) :
    ∀ c ∈ s.text.head?, c ≠ '\\' ∧ c ≠ '/' ∧ c ≠ '=' := by
  cases s with
  | numbered i =>
    exact fun c hc => not_mark_of_isDigit
      (List.all_eq_true.1 (Integer.all_isDigit_toDigits i) c (List.mem_of_mem_head? hc))
  | sibling offset =>
    rw [text]
    split <;> simp
  | named name => exact absurd rfl (hname name)
  | equals l => exact absurd rfl (hl l)
  | nameMatches p => exact absurd rfl (hp p)
  | valueMatches p => exact absurd rfl (hp' p)
  | _ => simp [text]

theorem ofLiteral_text {s : Selector Literal} (h : s.WellFormed) (hl : ∀ l, s ≠ equals l) :
    ofLiteral s.text = .ok s := by
  cases s with
  | named name =>
    show Except.ok (named (String.ofList name.toList)) = _
    rw [String.ofList_toList]
  | nameMatches p =>
    have hparts : ofLiteral (nameMatches p).text = nameMatches <$> pattern
        (p.body.toList, p.flags.toList) := by
      have h := patternParts?_patternText p
      simp only [patternText, List.cons_append] at h
      simp [text, patternText, ofLiteral, h]
    rw [hparts, pattern_parts]
    rfl
  | valueMatches p =>
    have hparts : ofLiteral (valueMatches p).text = valueMatches <$> pattern
        (p.body.toList, p.flags.toList) := by
      simp [text, ofLiteral, patternParts?_patternText]
    rw [hparts, pattern_parts]
    rfl
  | equals l => exact absurd rfl (hl l)
  | _ =>
    rw [ofLiteral_eq_ofWord (head?_text (by simp) (by simp) (by simp) (by simp))]
    exact ofWord_text h (by simp) (by simp) (by simp)

/-- Digits stand for the number that they denote wherever a text has them, and for none at all if
that is too large. -/
structure Exact (read : List Char → Except Fault (Selector Literal)) (cs : List Char) : Prop where
  numbered : read cs = if Integer.ofDigits cs < 2 ^ 64 then .ok (.numbered (Integer.ofDigits cs))
    else .error (.numberTooLarge (String.ofList cs))
  after : read ('+' :: cs) = if Integer.ofDigits cs < 2 ^ 63 then
      .ok (.sibling (Integer.ofDigits cs))
    else .error (.offsetTooLarge (String.ofList cs))
  before : read ('-' :: cs) = if Integer.ofDigits cs < 2 ^ 63 then
      .ok (.sibling (-Integer.ofDigits cs))
    else .error (.offsetTooLarge (String.ofList cs))
  everyNth : read ('%' :: cs) = if Integer.ofDigits cs = 0 then .error .zeroModulo
    else if Integer.ofDigits cs < 2 ^ 64 then .ok (.everyNth (Integer.ofDigits cs))
    else .error (.numberTooLarge (String.ofList cs))
  bound : bound cs = if Integer.ofDigits cs < 2 ^ 64 then .ok (some (Integer.ofDigits cs))
    else .error (.numberTooLarge (String.ofList cs))

theorem exact_ofWord {cs : List Char} (hd : isDigits cs = true) : Exact ofWord cs where
  numbered := by
    rw [ofWord_of_isDigits hd, number_of_isDigits hd]
    split <;> rfl
  after := by
    rw [ofWord_plus hd, offset_of_isDigits 1 hd, Int.one_mul]
    split <;> rfl
  before := by
    rw [ofWord_minus hd, offset_of_isDigits (-1) hd, Int.neg_one_mul]
    split <;> rfl
  everyNth := by
    rw [ofWord_percent, number_of_isDigits hd]
    by_cases hzero : Integer.ofDigits cs = 0
    · rw [hzero]
      rfl
    · rw [if_neg hzero]
      split
      · exact if_neg hzero
      · rfl
  bound := by
    rw [bound_of_isDigits hd, number_of_isDigits hd]
    split <;> rfl

theorem exact_ofLiteral {cs : List Char} (hd : isDigits cs = true) : Exact ofLiteral cs := by
  obtain ⟨numbered, after, before, everyNth, bound⟩ := exact_ofWord hd
  have hdigits : ∀ c ∈ cs.head?, c ≠ '\\' ∧ c ≠ '/' ∧ c ≠ '=' := fun c hc =>
    not_mark_of_isDigit (List.all_eq_true.1 (isDigits_iff.1 hd).2 c (List.mem_of_mem_head? hc))
  exact ⟨by rwa [ofLiteral_eq_ofWord hdigits], by rwa [ofLiteral_eq_ofWord (by simp)],
    by rwa [ofLiteral_eq_ofWord (by simp)], by rwa [ofLiteral_eq_ofWord (by simp)], bound⟩

end Selector
end TreeQuery
