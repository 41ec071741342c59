set_option autoImplicit false

/- The base 64 encoding of RFC 4648, section 4, with its canonical decoding:
padding is required, and the bits a short last quantum leaves over are zero. -/
namespace Base64

/-- The character of a six-bit value. -/
def symbol (value : Nat) : Char :=
  if value < 26 then Char.ofNat (65 + value)
  else if value < 52 then Char.ofNat (71 + value)
  else if value < 62 then Char.ofNat (value - 4)
  else if value = 62 then '+'
  else '/'

/-- The six-bit value of a character of the alphabet. -/
def value? (char : Char) : Option Nat :=
  if 65 ≤ char.toNat ∧ char.toNat ≤ 90 then some (char.toNat - 65)
  else if 97 ≤ char.toNat ∧ char.toNat ≤ 122 then some (char.toNat - 71)
  else if 48 ≤ char.toNat ∧ char.toNat ≤ 57 then some (char.toNat + 4)
  else if char = '+' then some 62
  else if char = '/' then some 63
  else none

theorem value?_symbol (value : Nat) (bound : value < 64) : value? (symbol value) = some value := by
  have all : ∀ v : Fin 64, value? (symbol v) = some v.val := by decide
  exact all ⟨value, bound⟩

theorem symbol_ne_pad (value : Nat) (bound : value < 64) : symbol value ≠ '=' := by
  have all : ∀ v : Fin 64, symbol v ≠ '=' := by decide
  exact all ⟨value, bound⟩

/-- Each value has one character: the alphabet has no second spelling. -/
theorem value?_eq_some {char : Char} {value : Nat} (h : value? char = some value) :
    value < 64 ∧ char = symbol value := by
  have spelled : char = Char.ofNat char.toNat := (Char.ofNat_toNat char).symm
  unfold value? at h
  split at h
  · cases h
    refine ⟨by omega, ?_⟩
    rw [symbol, if_pos (by omega), show 65 + (char.toNat - 65) = char.toNat by omega]
    exact spelled
  split at h
  · cases h
    refine ⟨by omega, ?_⟩
    rw [symbol, if_neg (by omega), if_pos (by omega),
      show 71 + (char.toNat - 71) = char.toNat by omega]
    exact spelled
  split at h
  · cases h
    refine ⟨by omega, ?_⟩
    rw [symbol, if_neg (by omega), if_neg (by omega), if_pos (by omega),
      show char.toNat + 4 - 4 = char.toNat by omega]
    exact spelled
  split at h
  · rename_i plus
    cases h
    exact ⟨by decide, plus⟩
  split at h
  · rename_i slash
    cases h
    exact ⟨by decide, slash⟩
  · cases h

/-- Three bytes to four symbols; one or two last bytes are padded. -/
def encode : List UInt8 → List Char
  | [] => []
  | [a] => [symbol (a.toNat / 4), symbol (a.toNat % 4 * 16), '=', '=']
  | [a, b] =>
      [symbol (a.toNat / 4), symbol (a.toNat % 4 * 16 + b.toNat / 16),
        symbol (b.toNat % 16 * 4), '=']
  | a :: b :: c :: rest =>
      symbol (a.toNat / 4) :: symbol (a.toNat % 4 * 16 + b.toNat / 16) ::
        symbol (b.toNat % 16 * 4 + c.toNat / 64) :: symbol (c.toNat % 64) :: encode rest

/-- A quantum of four symbols. -/
def decodeFull (w x y z : Char) : Option (List UInt8) := do
  let w ← value? w
  let x ← value? x
  let y ← value? y
  let z ← value? z
  return [UInt8.ofNat (w * 4 + x / 16), UInt8.ofNat (x % 16 * 16 + y / 4),
    UInt8.ofNat (y % 4 * 64 + z)]

/-- The last quantum: `xx==`, `xxx=` or `xxxx`. -/
def decodeLast (w x y z : Char) : Option (List UInt8) :=
  if z = '=' then
    if y = '=' then do
      let w ← value? w
      let x ← value? x
      if x % 16 = 0 then some [UInt8.ofNat (w * 4 + x / 16)] else none
    else do
      let w ← value? w
      let x ← value? x
      let y ← value? y
      if y % 4 = 0 then
        some [UInt8.ofNat (w * 4 + x / 16), UInt8.ofNat (x % 16 * 16 + y / 4)]
      else none
  else decodeFull w x y z

def decode : List Char → Option (List UInt8)
  | [] => some []
  | [w, x, y, z] => decodeLast w x y z
  | w :: x :: y :: z :: rest => do
      let head ← decodeFull w x y z
      let tail ← decode rest
      return head ++ tail
  | _ => none

theorem decodeFull_symbols (a b c : UInt8) :
    decodeFull (symbol (a.toNat / 4)) (symbol (a.toNat % 4 * 16 + b.toNat / 16))
      (symbol (b.toNat % 16 * 4 + c.toNat / 64)) (symbol (c.toNat % 64)) = some [a, b, c] := by
  have ha := a.toNat_lt
  have hb := b.toNat_lt
  have hc := c.toNat_lt
  rw [decodeFull, value?_symbol _ (by omega), value?_symbol _ (by omega),
    value?_symbol _ (by omega), value?_symbol _ (by omega)]
  simp only [Option.bind_eq_bind, Option.bind_some, Option.pure_def, Option.some.injEq,
    List.cons.injEq, and_true]
  refine ⟨?_, ?_, ?_⟩ <;> apply UInt8.toNat.inj <;> simp only [UInt8.toNat_ofNat'] <;> omega

/-- A full quantum that decodes is the spelling of its three bytes. -/
theorem decodeFull_eq_some {w x y z : Char} {bytes : List UInt8}
    (h : decodeFull w x y z = some bytes) :
    ∃ a b c, bytes = [a, b, c] ∧ [w, x, y, z] = encode [a, b, c] := by
  simp only [decodeFull, Option.bind_eq_bind, Option.bind_eq_some_iff, Option.pure_def,
    Option.some.injEq] at h
  obtain ⟨v₁, hw, v₂, hx, v₃, hy, v₄, hz, rfl⟩ := h
  obtain ⟨bound₁, rfl⟩ := value?_eq_some hw
  obtain ⟨bound₂, rfl⟩ := value?_eq_some hx
  obtain ⟨bound₃, rfl⟩ := value?_eq_some hy
  obtain ⟨bound₄, rfl⟩ := value?_eq_some hz
  refine ⟨_, _, _, rfl, ?_⟩
  simp only [encode, UInt8.toNat_ofNat', List.cons.injEq, and_true]
  refine ⟨?_, ?_, ?_, ?_⟩ <;> congr 1 <;> omega

/-- Any last quantum that decodes is the spelling of its one, two or three bytes. -/
theorem decodeLast_eq_some {w x y z : Char} {bytes : List UInt8}
    (h : decodeLast w x y z = some bytes) : [w, x, y, z] = encode bytes := by
  unfold decodeLast at h
  split at h
  · rename_i padZ
    split at h
    · rename_i padY
      simp only [Option.bind_eq_bind, Option.bind_eq_some_iff] at h
      obtain ⟨v₁, hw, v₂, hx, h⟩ := h
      obtain ⟨bound₁, rfl⟩ := value?_eq_some hw
      obtain ⟨bound₂, rfl⟩ := value?_eq_some hx
      split at h
      · cases h
        simp only [encode, UInt8.toNat_ofNat', padY, padZ, List.cons.injEq, and_true]
        refine ⟨?_, ?_⟩ <;> congr 1 <;> omega
      · cases h
    · simp only [Option.bind_eq_bind, Option.bind_eq_some_iff] at h
      obtain ⟨v₁, hw, v₂, hx, v₃, hy, h⟩ := h
      obtain ⟨bound₁, rfl⟩ := value?_eq_some hw
      obtain ⟨bound₂, rfl⟩ := value?_eq_some hx
      obtain ⟨bound₃, rfl⟩ := value?_eq_some hy
      split at h
      · cases h
        simp only [encode, UInt8.toNat_ofNat', padZ, List.cons.injEq, and_true]
        refine ⟨?_, ?_, ?_⟩ <;> congr 1 <;> omega
      · cases h
  · obtain ⟨a, b, c, rfl, spelled⟩ := decodeFull_eq_some h
    exact spelled

theorem decode_full_append {w x y z : Char} {head : List UInt8}
    (full : decodeFull w x y z = some head) (unpadded : z ≠ '=') (rest : List Char) :
    decode (w :: x :: y :: z :: rest) = (decode rest).map (head ++ ·) := by
  cases rest with
  | nil => simp [decode, decodeLast, unpadded, full]
  | cons next rest =>
      rw [decode, full]
      · cases decode (next :: rest) <;> rfl
      · simp

/-- What `encode` writes decodes to the same bytes. -/
theorem decode_encode (bytes : List UInt8) : decode (encode bytes) = some bytes := by
  induction bytes using encode.induct with
  | case1 => rfl
  | case2 a =>
      have ha := a.toNat_lt
      simp only [encode, decode, decodeLast, ↓reduceIte]
      rw [value?_symbol _ (by omega), value?_symbol _ (by omega)]
      simp only [Option.bind_eq_bind, Option.bind_some]
      rw [if_pos (by omega)]
      congr 2
      apply UInt8.toNat.inj
      simp only [UInt8.toNat_ofNat']
      omega
  | case3 a b =>
      have ha := a.toNat_lt
      have hb := b.toNat_lt
      simp only [encode, decode, decodeLast, ↓reduceIte]
      rw [if_neg (symbol_ne_pad _ (by omega)), value?_symbol _ (by omega),
        value?_symbol _ (by omega), value?_symbol _ (by omega)]
      simp only [Option.bind_eq_bind, Option.bind_some]
      rw [if_pos (by omega)]
      simp only [Option.some.injEq, List.cons.injEq, and_true]
      refine ⟨?_, ?_⟩ <;> apply UInt8.toNat.inj <;> simp only [UInt8.toNat_ofNat'] <;> omega
  | case4 a b c rest ih =>
      have hc := c.toNat_lt
      rw [encode, decode_full_append (decodeFull_symbols a b c) (symbol_ne_pad _ (by omega)), ih]
      rfl

/-- A text that decodes is the one spelling of its bytes. -/
theorem decode_canonical {text : List Char} {bytes : List UInt8}
    (h : decode text = some bytes) : text = encode bytes := by
  induction text using decode.induct generalizing bytes with
  | case1 => cases h; rfl
  | case2 w x y z => exact decodeLast_eq_some h
  | case3 w x y z rest more ih =>
      rw [decode] at h
      · simp only [Option.bind_eq_bind, Option.bind_eq_some_iff, Option.pure_def,
          Option.some.injEq] at h
        obtain ⟨head, full, tail, decoded, rfl⟩ := h
        obtain ⟨a, b, c, rfl, spelled⟩ := decodeFull_eq_some full
        simp only [encode, List.cons.injEq, and_true] at spelled
        obtain ⟨rfl, rfl, rfl, rfl⟩ := spelled
        rw [ih decoded]
        rfl
      · exact more
  | case4 text noneNil noneFour noneMore =>
      rw [decode] at h
      · cases h
      · exact noneNil
      · exact noneFour
      · exact noneMore

/-- The decoder accepts exactly what the encoder writes. -/
theorem decode_eq_some_iff (text : List Char) (bytes : List UInt8) :
    decode text = some bytes ↔ text = encode bytes := by
  constructor
  · exact decode_canonical
  · rintro rfl
    exact decode_encode bytes

/-- Four symbols for each three bytes begun. -/
theorem length_encode (bytes : List UInt8) :
    (encode bytes).length = 4 * ((bytes.length + 2) / 3) := by
  induction bytes using encode.induct with
  | case1 => rfl
  | case2 a => simp [encode]
  | case3 a b => simp [encode]
  | case4 a b c rest ih =>
      simp only [encode, List.length_cons, ih]
      omega

theorem symbol_ascii (value : Nat) : (symbol value).toNat < 128 := by
  by_cases small : value < 64
  · have all : ∀ v : Fin 64, (symbol v).toNat < 128 := by decide
    exact all ⟨value, small⟩
  · rw [symbol, if_neg (by omega), if_neg (by omega), if_neg (by omega), if_neg (by omega)]
    decide

theorem encode_ascii (bytes : List UInt8) : ∀ char ∈ encode bytes, char.toNat < 128 := by
  induction bytes using encode.induct with
  | case1 => simp [encode]
  | case2 a => simp [encode, symbol_ascii]
  | case3 a b => simp [encode, symbol_ascii]
  | case4 a b c rest ih =>
      simp only [encode, List.mem_cons, forall_eq_or_imp, symbol_ascii, true_and]
      exact ih

/-- A character of an encoding. -/
def Coded (char : Char) : Prop := (value? char).isSome ∨ char = '='

theorem symbol_coded (value : Nat) (bound : value < 64) : Coded (symbol value) := by
  rw [Coded, value?_symbol value bound]
  exact .inl rfl

theorem encode_coded (bytes : List UInt8) : ∀ char ∈ encode bytes, Coded char := by
  have pad : Coded '=' := .inr rfl
  induction bytes using encode.induct with
  | case1 => simp [encode]
  | case2 a =>
      have bound := a.toNat_lt
      simp only [encode, List.forall_mem_cons, List.not_mem_nil, false_implies, implies_true,
        pad, and_true]
      exact ⟨symbol_coded _ (by omega), symbol_coded _ (by omega)⟩
  | case3 a b =>
      have bound := a.toNat_lt
      have bound' := b.toNat_lt
      simp only [encode, List.forall_mem_cons, List.not_mem_nil, false_implies, implies_true,
        pad, and_true]
      exact ⟨symbol_coded _ (by omega), symbol_coded _ (by omega), symbol_coded _ (by omega)⟩
  | case4 a b c rest ih =>
      have bound := a.toNat_lt
      have bound' := b.toNat_lt
      have bound'' := c.toNat_lt
      simp only [encode, List.forall_mem_cons]
      exact ⟨symbol_coded _ (by omega), symbol_coded _ (by omega), symbol_coded _ (by omega),
        symbol_coded _ (by omega), ih⟩

/-- Only texts of whole quanta decode. -/
theorem decode_length {text : List Char} {bytes : List UInt8} (h : decode text = some bytes) :
    text.length % 4 = 0 := by
  rw [decode_canonical h, length_encode]
  exact Nat.mul_mod_right 4 _

/-- Cut between two quanta, an encoding is the encoding of the bytes before the cut. -/
theorem take_encode (bytes : List UInt8) (quanta : Nat) (within : 3 * quanta ≤ bytes.length) :
    (encode bytes).take (4 * quanta) = encode (bytes.take (3 * quanta)) := by
  induction quanta generalizing bytes with
  | zero => rfl
  | succ quanta ih =>
      match bytes, within with
      | a :: b :: c :: rest, within =>
          have shorter : 3 * quanta ≤ rest.length := by
            simp only [List.length_cons] at within
            omega
          rw [Nat.mul_succ, Nat.mul_succ, List.take_succ_cons, List.take_succ_cons,
            List.take_succ_cons, encode, encode, List.take_succ_cons, List.take_succ_cons,
            List.take_succ_cons, List.take_succ_cons, ih rest shorter]

/-- A proper beginning of an encoding, in whole quanta, decodes to a proper
beginning of the bytes. -/
theorem decode_beginning {bytes : List UInt8} {front rest : List Char}
    (joined : encode bytes = front ++ rest) (cut : rest ≠ []) (whole : front.length % 4 = 0) :
    decode front = some (bytes.take (3 * (front.length / 4))) ∧
      3 * (front.length / 4) < bytes.length := by
  have quanta : 4 * (front.length / 4) = front.length := by omega
  have lengths := congrArg List.length joined
  have positive := List.length_pos_iff.mpr cut
  rw [length_encode, List.length_append] at lengths
  have within : 3 * (front.length / 4) < bytes.length := by omega
  refine ⟨?_, within⟩
  rw [decode_eq_some_iff, ← take_encode bytes _ (Nat.le_of_lt within), joined, quanta,
    List.take_left]

/-- A codec as a library offers it: a refused text comes with a message. -/
structure Engine where
  encode : List UInt8 → String
  decode : String → Except String (List UInt8)

namespace Engine

/-- The codec is the one above, whatever its messages are. -/
structure Standard (engine : Engine) : Prop where
  encodes : ∀ bytes, engine.encode bytes = String.ofList (Base64.encode bytes)
  decodes : ∀ text bytes, engine.decode text = .ok bytes ↔ Base64.decode text.toList = some bytes

theorem Standard.decode_eq_ok_iff {engine : Engine} (standard : engine.Standard)
    (text : String) (bytes : List UInt8) :
    engine.decode text = .ok bytes ↔ text = engine.encode bytes := by
  rw [standard.decodes, decode_eq_some_iff, standard.encodes, ← String.toList_inj,
    String.toList_ofList]

theorem Standard.decode_encode {engine : Engine} (standard : engine.Standard)
    (bytes : List UInt8) : engine.decode (engine.encode bytes) = .ok bytes :=
  (standard.decode_eq_ok_iff _ _).mpr rfl

theorem Standard.encode_injective {engine : Engine} (standard : engine.Standard)
    {left right : List UInt8} (h : engine.encode left = engine.encode right) : left = right := by
  have decoded := standard.decode_encode left
  rw [h, standard.decode_encode] at decoded
  exact (Except.ok.inj decoded).symm

theorem Standard.length_encode {engine : Engine} (standard : engine.Standard)
    (bytes : List UInt8) : (engine.encode bytes).length = 4 * ((bytes.length + 2) / 3) := by
  rw [standard.encodes, String.length_ofList, Base64.length_encode]

/-- A text that does not consist of whole quanta is refused. -/
theorem Standard.decode_broken {engine : Engine} (standard : engine.Standard) (text : String)
    (broken : text.length % 4 ≠ 0) : ∃ message, engine.decode text = .error message := by
  cases decoded : engine.decode text with
  | error message => exact ⟨message, rfl⟩
  | ok bytes =>
      have whole := decode_length ((standard.decodes text bytes).mp decoded)
      exact absurd whole broken

theorem Standard.decode_beginning {engine : Engine} (standard : engine.Standard)
    {bytes : List UInt8} {front rest : String} (joined : engine.encode bytes = front ++ rest)
    (cut : rest ≠ "") (whole : front.length % 4 = 0) :
    engine.decode front = .ok (bytes.take (3 * (front.length / 4))) ∧
      3 * (front.length / 4) < bytes.length := by
  have chars : Base64.encode bytes = front.toList ++ rest.toList := by
    rw [← String.toList_append, ← joined, standard.encodes, String.toList_ofList]
  have nonempty : rest.toList ≠ [] := fun none => cut (String.toList_eq_nil_iff.mp none)
  obtain ⟨decoded, shorter⟩ := Base64.decode_beginning chars nonempty whole
  exact ⟨(standard.decodes _ _).mpr decoded, shorter⟩

/-- The codec above, refusing with a given message. -/
def rfc4648 (message : String) : Engine where
  encode bytes := String.ofList (Base64.encode bytes)
  decode text :=
    match Base64.decode text.toList with
    | none => .error message
    | some bytes => .ok bytes

theorem rfc4648_standard (message : String) : (rfc4648 message).Standard := by
  refine ⟨fun _ => rfl, ?_⟩
  intro text bytes
  cases decoded : Base64.decode text.toList <;> simp [rfc4648, decoded]

end Engine

end Base64
