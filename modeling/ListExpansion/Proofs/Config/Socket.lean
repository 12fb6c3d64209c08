/-
# ListExpansion.Proofs.Config.Socket -- the two ways of writing a socket

`Socket.Written` is the grammar of sockets: which texts stand for one and for which.  It
knows nothing of how a text is read.  A scheme has no colon in it and a port no `@`, so the
first of each is where a text is to be cut, whatever a path or a host has more of them
(`cutChars_eq_some_iff`).

Reading is exact for the grammar (`parse_exact`).  What is printed for a socket that was
read is one of its spellings (`written_toText`), so it reads back as that very socket
(`parse_toText`).
-/
import ListExpansion.Config.Socket
import ListExpansion.Proofs.Text.Utf8
import Mathlib.Data.List.DropRight

namespace ListExpansion

set_option autoImplicit false

/-! ## Cutting at a separator -/

theorem cutChars_eq_some_iff {separator : Char} {text before after : List Char} :
    cutChars separator text = some (before, after) ↔
      text = before ++ separator :: after ∧ separator ∉ before := by
  induction text generalizing before after with
  | nil => simp [cutChars]
  | cons c rest ih =>
      by_cases here : c = separator
      · subst here
        rw [cutChars, if_pos rfl]
        cases before with
        | nil => simp
        | cons d before => simp +contextual
      · rw [cutChars, if_neg here, Option.map_eq_some_iff]
        constructor
        · rintro ⟨⟨front, back⟩, cut, same⟩
          obtain ⟨rfl, free⟩ := ih.1 cut
          cases same
          exact ⟨rfl, List.not_mem_cons_of_ne_of_not_mem (Ne.symm here) free⟩
        · rintro ⟨joined, free⟩
          cases before with
          | nil => exact absurd (List.cons.inj joined).1 here
          | cons d before =>
              obtain ⟨rfl, rest_eq⟩ := List.cons.inj joined
              exact ⟨(before, after), ih.2 ⟨rest_eq, (List.ne_and_not_mem_of_not_mem_cons free).2⟩,
                rfl⟩

/-! ## Ports -/

/-- `text` spells `port`: one decimal digit or more, behind one `+` or none. -/
structure SpellsPort (text : List Char) (port : Nat) : Prop where
  digits : ∃ digits, (text = digits ∨ text = '+' :: digits) ∧ digits ≠ [] ∧
    (∀ c ∈ digits, c.isDigit = true) ∧ Nat.ofDigitChars 10 digits 0 = port
  least : 1 ≤ port
  most : port ≤ 65535

theorem decimal_eq (digits : List Char) : decimal digits = Nat.ofDigitChars 10 digits 0 := by
  unfold decimal Nat.ofDigitChars
  congr 1
  funext value digit
  rw [Nat.mul_comm]

/-- A sign is no digit, so it is told apart from what it stands before. -/
theorem signed_iff {text digits : List Char} (all_digits : ∀ c ∈ digits, c.isDigit = true) :
    text = digits ∨ text = '+' :: digits ↔
      (if text.head? = some '+' then text.tail else text) = digits := by
  constructor
  · rintro (rfl | rfl)
    · refine if_neg fun plus => ?_
      exact absurd (all_digits '+' (List.mem_of_mem_head? plus)) (by decide)
    · rfl
  · rintro rfl
    split
    · next plus => exact .inr (List.eq_cons_of_mem_head? plus)
    · exact .inl rfl

theorem parsePort?_eq_some_iff {text : List Char} {port : Nat} :
    parsePort? text = some port ↔ SpellsPort text port := by
  unfold parsePort?
  constructor
  · generalize unsigned : (if text.head? = some '+' then text.tail else text) = digits
    intro read
    simp only [Option.ite_none_left_eq_some, Option.ite_none_right_eq_some, Option.some.injEq,
      List.isEmpty_iff, List.all_eq_true, decimal_eq] at read
    obtain ⟨some_digit, all_digits, ⟨least, most⟩, rfl⟩ := read
    exact ⟨⟨digits, (signed_iff all_digits).2 unsigned, some_digit, all_digits, rfl⟩, least, most⟩
  · rintro ⟨⟨digits, signed, some_digit, all_digits, rfl⟩, least, most⟩
    simp only [(signed_iff all_digits).1 signed, List.isEmpty_iff, if_neg some_digit, decimal_eq,
      if_pos (List.all_eq_true.2 all_digits), if_pos (And.intro least most)]

theorem spellsPort_toString {port : Nat} (least : 1 ≤ port) (most : port ≤ 65535) :
    SpellsPort (toString port).toList port := by
  refine ⟨⟨_, .inl rfl, ?_, ?_, ?_⟩, least, most⟩
  all_goals rw [Nat.toString_eq_repr, Nat.toList_repr]
  · exact Nat.toDigits_ne_nil
  · exact fun c => Nat.isDigit_of_mem_toDigits (by decide) (Nat.le_refl 10)
  · exact Nat.ofDigitChars_ten_toDigits

theorem SpellsPort.free {text : List Char} {port : Nat} (spells : SpellsPort text port) :
    '@' ∉ text := by
  obtain ⟨digits, signed, -, all_digits, -⟩ := spells.digits
  have free : '@' ∉ digits := fun member => absurd (all_digits '@' member) (by decide)
  rcases signed with rfl | rfl
  · exact free
  · exact List.not_mem_cons_of_ne_of_not_mem (by decide) free

/-! ## Hosts -/

/-- `host` is what is left of `text` without its leading `[` and its trailing `]`. -/
structure Strips (text host : List Char) : Prop where
  brackets : ∃ opening closing,
    text = List.replicate opening '[' ++ (host ++ List.replicate closing ']')
  not_opening : host.head? ≠ some '['
  not_closing : host.getLast? ≠ some ']'

/-- Brackets that open and brackets that close, and nothing between them. -/
def BracketsOnly (text : List Char) : Prop :=
  ∃ opening closing, text = List.replicate opening '[' ++ List.replicate closing ']'

theorem dropWhile_of_head? {c : Char} {text : List Char} (other : text.head? ≠ some c) :
    text.dropWhile (· = c) = text := by
  cases text with
  | nil => rfl
  | cons d rest => exact List.dropWhile_cons_of_neg (by simpa using other)

theorem unbracketed_eq (text : List Char) :
    unbracketed text = (text.dropWhile (· = '[')).rdropWhile (· = ']') := rfl

theorem strips_unbracketed (text : List Char) : Strips text (unbracketed text) := by
  rw [unbracketed_eq]
  have front : text.takeWhile (· = '[') = List.replicate (text.takeWhile (· = '[')).length '[' :=
    List.eq_replicate_iff.2 ⟨rfl, fun c member => by simpa using List.mem_takeWhile_imp member⟩
  generalize inner : text.dropWhile (· = '[') = host
  have back : host.rtakeWhile (· = ']') =
      List.replicate (host.rtakeWhile (· = ']')).length ']' :=
    List.eq_replicate_iff.2 ⟨rfl, fun c member => by simpa using List.mem_rtakeWhile_imp member⟩
  refine ⟨⟨(text.takeWhile (· = '[')).length, (host.rtakeWhile (· = ']')).length, ?_⟩, ?_, ?_⟩
  · rw [← front, ← back, List.rdropWhile_append_rtakeWhile, ← inner,
      List.takeWhile_append_dropWhile]
  · -- What is left begins as the host does, from which the opening brackets are gone already.
    intro opens
    obtain ⟨rest, whole⟩ := List.rdropWhile_prefix (· = ']') (l := host)
    have opens : host.head? = some '[' := by
      rw [← whole, List.head?_append, opens, Option.some_or]
    have stopped := List.head?_dropWhile_not (· = '[') text
    rw [inner, opens] at stopped
    cases stopped
  · intro closes
    have some_left := List.ne_nil_of_mem (List.mem_of_getLast? closes)
    rw [List.getLast?_eq_some_getLast some_left, Option.some.injEq] at closes
    exact List.rdropWhile_last_not _ host some_left (by simp [closes])

/-- Nothing else is left. -/
theorem Strips.eq {text host : List Char} (strips : Strips text host) : unbracketed text = host := by
  obtain ⟨opening, closing, rfl⟩ := strips.brackets
  have front : (host ++ List.replicate closing ']').head? ≠ some '[' := by
    cases host with
    | nil => cases closing <;> simp [List.replicate_succ]
    | cons c rest => exact strips.not_opening
  have back : host.reverse.head? ≠ some ']' := List.head?_reverse ▸ strips.not_closing
  rw [unbracketed_eq, List.dropWhile_append_of_pos (by simp), dropWhile_of_head? front,
    List.rdropWhile, List.reverse_append, List.reverse_replicate,
    List.dropWhile_append_of_pos (by simp), dropWhile_of_head? back, List.reverse_reverse]

/-- Nothing is left of brackets alone. -/
theorem bracketsOnly_iff (text : List Char) : BracketsOnly text ↔ unbracketed text = [] := by
  constructor
  · rintro ⟨opening, closing, rfl⟩
    exact Strips.eq ⟨⟨opening, closing, rfl⟩, nofun, nofun⟩
  · intro empty
    obtain ⟨opening, closing, joined⟩ := (strips_unbracketed text).brackets
    exact ⟨opening, closing, by rw [joined, empty, List.nil_append]⟩

namespace Socket

/-! ## The grammar -/

/-- `text` is a spelling of a socket. -/
inductive Written : (text : List Char) → Socket → Prop
  | path {text : List Char} (rooted : text.head? = some '/') :
      Written text (.unix (Bytes.ofText (String.ofList text)))
  | unix {scheme : String} {path : List Char} (known : scheme ∈ ["unix", "local"])
      (rooted : path.head? = some '/') :
      Written (scheme.toList ++ ':' :: path) (.unix (Bytes.ofText (String.ofList path)))
  | inet {scheme : String} {portText hostText host : List Char} {port : Nat}
      (known : scheme ∈ ["inet", "inet6"]) (ported : SpellsPort portText port)
      (hosted : ¬ BracketsOnly hostText) (strips : Strips hostText host) :
      Written (scheme.toList ++ ':' :: (portText ++ '@' :: hostText))
        (.inet (String.ofList host) port)

theorem parseEndpoint?_eq_some_iff {rest : List Char} {socket : Socket} :
    parseEndpoint? rest = some socket ↔
      ∃ portText hostText host port, rest = portText ++ '@' :: hostText ∧
        SpellsPort portText port ∧ ¬ BracketsOnly hostText ∧ Strips hostText host ∧
        socket = .inet (String.ofList host) port := by
  constructor
  · intro read
    unfold parseEndpoint? at read
    split at read
    · cases read
    next portText hostText cut =>
      split at read
      · cases read
      next port ported =>
        simp only [Option.ite_none_left_eq_some, Option.some.injEq, List.isEmpty_iff] at read
        obtain ⟨some_left, rfl⟩ := read
        exact ⟨portText, hostText, _, port, (cutChars_eq_some_iff.1 cut).1,
          parsePort?_eq_some_iff.1 ported, mt (bracketsOnly_iff hostText).1 some_left,
          strips_unbracketed hostText, rfl⟩
  · rintro ⟨portText, hostText, host, port, rfl, ported, hosted, strips, rfl⟩
    have cut : cutChars '@' (portText ++ '@' :: hostText) = some (portText, hostText) :=
      cutChars_eq_some_iff.2 ⟨rfl, ported.free⟩
    have some_left : host ≠ [] := strips.eq ▸ mt (bracketsOnly_iff hostText).2 hosted
    unfold parseEndpoint?
    simp only [cut, parsePort?_eq_some_iff.2 ported, strips.eq, List.isEmpty_iff, if_neg some_left]

theorem parseChars?_eq_some_iff {text : List Char} {socket : Socket} :
    parseChars? text = some socket ↔ Written text socket := by
  constructor
  · intro read
    unfold parseChars? at read
    split at read
    · next rooted =>
        cases read
        exact .path rooted
    split at read
    · cases read
    next scheme rest cut =>
      obtain ⟨rfl, -⟩ := cutChars_eq_some_iff.1 cut
      split at read
      · next known =>
          obtain ⟨rooted, read⟩ := Option.ite_none_right_eq_some.1 read
          cases read
          rcases known with rfl | rfl
          · exact .unix (by simp) rooted
          · exact .unix (by simp) rooted
      · next known =>
          obtain ⟨known, read⟩ := Option.ite_none_right_eq_some.1 read
          obtain ⟨portText, hostText, host, port, rfl, ported, hosted, strips, rfl⟩ :=
            parseEndpoint?_eq_some_iff.1 read
          rcases known with rfl | rfl
          · exact .inet (by simp) ported hosted strips
          · exact .inet (by simp) ported hosted strips
  · -- A scheme has no colon in it, so it is what stands before the first.
    have cut (scheme rest : List Char) (free : ':' ∉ scheme) :
        cutChars ':' (scheme ++ ':' :: rest) = some (scheme, rest) :=
      cutChars_eq_some_iff.2 ⟨rfl, free⟩
    intro written
    cases written with
    | path rooted => rw [parseChars?, if_pos rooted]
    | @unix scheme path known rooted =>
        simp only [List.mem_cons, List.not_mem_nil, or_false] at known
        rcases known with rfl | rfl <;>
          · rw [parseChars?, if_neg (by simp), cut _ _ (by decide)]
            simp [rooted]
    | @inet scheme portText hostText host port known ported hosted strips =>
        have read : parseEndpoint? (portText ++ '@' :: hostText) =
            some (.inet (String.ofList host) port) :=
          parseEndpoint?_eq_some_iff.2 ⟨_, _, _, _, rfl, ported, hosted, strips, rfl⟩
        simp only [List.mem_cons, List.not_mem_nil, or_false] at known
        rcases known with rfl | rfl <;>
          · rw [parseChars?, if_neg (by simp), cut _ _ (by decide)]
            simp [read]

theorem parse_eq_ok_iff {text : String} {socket : Socket} :
    parse text = .ok socket ↔ Written text.toList socket := by
  rw [← parseChars?_eq_some_iff, parse]
  cases parseChars? text.toList <;> simp

/-- **A text is read just when it is a spelling of a socket, and as that socket.**  Any other
comes back with the error, as it was given. -/
theorem parse_exact (text : String) :
    (∀ socket, parse text = .ok socket ↔ Written text.toList socket) ∧
      ∀ error, parse text = .error error ↔
        error = .socket text ∧ ∀ socket, ¬ Written text.toList socket := by
  refine ⟨fun socket => parse_eq_ok_iff, fun error => ?_⟩
  constructor
  · intro refused
    refine ⟨?_, fun socket written => ?_⟩
    · unfold parse at refused
      split at refused
      · cases refused
      · exact (Except.error.inj refused).symm
    · rw [parse_eq_ok_iff.2 written] at refused
      cases refused
  · rintro ⟨rfl, unwritten⟩
    cases read : parse text with
    | ok socket => exact absurd (parse_eq_ok_iff.1 read) (unwritten socket)
    | error error =>
        unfold parse at read
        split at read
        · cases read
        · rw [Except.error.inj read]

example : ["INET:25@h", " /run/s", "unix: /run/s", "inet:65536@h", "inet:+@h", "inet:25@[]"].all
    (fun text => parse text == .error (.socket text)) = true := by decide +kernel

/-! ## What is printed -/

/-- What is printed for a socket that has a spelling is a spelling of it. -/
theorem written_toText {text : List Char} {socket : Socket} (written : Written text socket) :
    Written socket.toText.toList socket := by
  have unix {path : List Char} (rooted : path.head? = some '/') :
      Written (toText (.unix (Bytes.ofText (String.ofList path)))).toList
        (.unix (Bytes.ofText (String.ofList path))) := by
    have spelled : (toText (.unix (Bytes.ofText (String.ofList path)))).toList =
        "unix".toList ++ ':' :: path := by
      simp [toText, Utf8.lossy_ofText]
    exact spelled ▸ .unix (by simp) rooted
  cases written with
  | path rooted => exact unix rooted
  | unix known rooted => exact unix rooted
  | @inet _ _ hostText host port _ ported hosted strips =>
      have bare : Strips host host :=
        ⟨⟨0, 0, by simp⟩, strips.not_opening, strips.not_closing⟩
      have some_left : ¬ BracketsOnly host := by
        rw [bracketsOnly_iff, bare.eq, ← strips.eq, ← bracketsOnly_iff]
        exact hosted
      have spelled := spellsPort_toString ported.least ported.most
      rw [toText]
      simp only [String.toList_append, String.toList_ofList, List.append_assoc]
      split
      · exact @Written.inet "inet6" _ _ _ _ (by simp) spelled some_left bare
      · exact @Written.inet "inet" _ _ _ _ (by simp) spelled some_left bare

/-- **What is printed for a socket that was read reads back as that socket,** and is printed
for it again. -/
theorem parse_toText {text : String} {socket : Socket} (read : parse text = .ok socket) :
    parse socket.toText = .ok socket ∧
      (parse socket.toText).map toText = .ok socket.toText := by
  have again : parse socket.toText = .ok socket :=
    parse_eq_ok_iff.2 (written_toText (parse_eq_ok_iff.1 read))
  exact ⟨again, by rw [again]; rfl⟩

/-- A host that keeps its colon, its `@` and an inner bracket. -/
theorem parse_toText_brackets :
    parse "inet:+0025@[[a@b:[c]]" = .ok (.inet "a@b:[c" 25) ∧
      parse (toText (.inet "a@b:[c" 25)) = .ok (.inet "a@b:[c" 25) ∧
      (parse (toText (.inet "a@b:[c" 25))).map toText = .ok (toText (.inet "a@b:[c" 25)) ∧
      toText (.inet "a@b:[c" 25) = "inet6:25@a@b:[c" := by
  have read : parse "inet:+0025@[[a@b:[c]]" = .ok (.inet "a@b:[c" 25) := by decide +kernel
  obtain ⟨again, printed⟩ := parse_toText read
  exact ⟨read, again, printed, by decide +kernel⟩

end Socket

end ListExpansion
