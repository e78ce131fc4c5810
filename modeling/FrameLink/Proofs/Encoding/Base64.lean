import FrameLink.Text.Base64

/-!
# What was written in base64 is read back

Three bytes are cut into four values of six bits, and a symbol gives its value back. Reading holds
only the last four symbols to the rules of padding, so the proof goes by groups of three bytes, as
writing does, and comes to those rules once the group is the last one.
-/

namespace FrameLink.Base64

/-! ## Symbols -/

@[simp] theorem value?_pad : value? pad = none := by
  decide

theorem value?_symbol : ∀ value < 64, value? (symbol value) = some value := by
  decide

/-- A byte that has a value is the symbol of that value. -/
theorem symbol_of_value? :
    ∀ byte, ∀ value ∈ value? byte, value < 64 ∧ byte = symbol value := by
  apply Bytes.forall_byte
  decide +kernel

theorem symbol_ne_pad {value : Nat} (six : value < 64) : symbol value ≠ pad := by
  intro same
  have known := value?_symbol value six
  rw [same, value?_pad] at known
  cases known

theorem symbol_of_valueAt {offset : Nat} {byte : UInt8} {value : Nat}
    (known : valueAt offset byte = .ok value) : value < 64 ∧ byte = symbol value := by
  unfold valueAt at known
  split at known
  next found =>
    cases known
    exact symbol_of_value? byte value found
  next => cases known

theorem valueAt_symbol (offset : Nat) {value : Nat} (six : value < 64) :
    valueAt offset (symbol value) = .ok value := by
  rw [valueAt, value?_symbol value six]

/-! ## Written forms -/

/-- A byte that may stand in a written form. -/
def Written (byte : UInt8) : Prop :=
  byte = pad ∨ ∃ value < 64, byte = symbol value

theorem written_pad : Written pad :=
  .inl rfl

theorem written_symbol {value : Nat} (six : value < 64) : Written (symbol value) :=
  .inr ⟨value, six, rfl⟩

/-- Nothing but symbols and padding is written. -/
theorem written_of_mem_encode {bytes : Bytes} {byte : UInt8} (inside : byte ∈ encode bytes) :
    Written byte := by
  induction bytes using encode.induct with
  | case1 => simp [encode] at inside
  | case2 a =>
      have byteA := a.toNat_lt
      simp only [encode, List.mem_cons, List.not_mem_nil, or_false] at inside
      rcases inside with rfl | rfl | rfl | rfl
      · exact written_symbol (by omega)
      · exact written_symbol (by omega)
      · exact written_pad
      · exact written_pad
  | case3 a b =>
      have byteA := a.toNat_lt
      have byteB := b.toNat_lt
      simp only [encode, List.mem_cons, List.not_mem_nil, or_false] at inside
      rcases inside with rfl | rfl | rfl | rfl
      · exact written_symbol (by omega)
      · exact written_symbol (by omega)
      · exact written_symbol (by omega)
      · exact written_pad
  | case4 a b c rest ih =>
      have byteA := a.toNat_lt
      have byteB := b.toNat_lt
      have byteC := c.toNat_lt
      simp only [encode, List.mem_cons] at inside
      rcases inside with rfl | rfl | rfl | rfl | later
      · exact written_symbol (by omega)
      · exact written_symbol (by omega)
      · exact written_symbol (by omega)
      · exact written_symbol (by omega)
      · exact ih later

/-- Every group of three bytes takes four symbols, the last group too. -/
@[simp] theorem length_encode (bytes : Bytes) :
    (encode bytes).length = 4 * ((bytes.length + 2) / 3) := by
  induction bytes using encode.induct with
  | case1 => rfl
  | case2 a => simp [encode]
  | case3 a b => simp [encode]
  | case4 a b c rest ih =>
      simp only [encode, List.length_cons, ih]
      omega

/-- Nothing is left over behind the last four symbols. -/
theorem stray?_encode (bytes : Bytes) : stray? (encode bytes) = none := by
  have whole : ¬(encode bytes).length % 4 = 1 := by
    rw [length_encode]
    omega
  rw [stray?]
  split
  next byte _ => rw [if_neg fun stray => whole stray.1]
  next => rfl

/-! ## Reading -/

theorem lastValues_symbol (start place : Nat) {value : Nat} (rest : Bytes) (six : value < 64) :
    lastValues start place (symbol value :: rest) =
      (lastValues start (place + 1) rest).map fun (values, pads) => (value :: values, pads) := by
  rw [lastValues, if_neg (symbol_ne_pad six), valueAt_symbol _ six]
  cases lastValues start (place + 1) rest <;> rfl

/-- One byte at the end is read with two symbols of padding. -/
theorem decodeLast_one (start : Nat) {a b : Nat} (sixA : a < 64) (sixB : b < 64)
    (unused : b % 16 = 0) :
    decodeLast start [symbol a, symbol b, pad, pad] = .ok [UInt8.ofNat (a * 4 + b / 16)] := by
  have values : lastValues start 0 [symbol a, symbol b, pad, pad] = .ok ([a, b], 2) := by
    rw [lastValues_symbol _ _ _ sixA, lastValues_symbol _ _ _ sixB]
    rfl
  rw [decodeLast, values]
  simp [unused]

/-- Two bytes at the end are read with one symbol of padding. -/
theorem decodeLast_two (start : Nat) {a b c : Nat} (sixA : a < 64) (sixB : b < 64) (sixC : c < 64)
    (unused : c % 4 = 0) :
    decodeLast start [symbol a, symbol b, symbol c, pad] =
      .ok [UInt8.ofNat (a * 4 + b / 16), UInt8.ofNat (b * 16 + c / 4)] := by
  have values : lastValues start 0 [symbol a, symbol b, symbol c, pad] = .ok ([a, b, c], 1) := by
    rw [lastValues_symbol _ _ _ sixA, lastValues_symbol _ _ _ sixB, lastValues_symbol _ _ _ sixC]
    rfl
  rw [decodeLast, values]
  simp [unused]

/-- Three bytes at the end are read without padding. -/
theorem decodeLast_three (start : Nat) {a b c d : Nat} (sixA : a < 64) (sixB : b < 64)
    (sixC : c < 64) (sixD : d < 64) :
    decodeLast start [symbol a, symbol b, symbol c, symbol d] =
      .ok [UInt8.ofNat (a * 4 + b / 16), UInt8.ofNat (b * 16 + c / 4),
        UInt8.ofNat (c * 64 + d)] := by
  have values : lastValues start 0 [symbol a, symbol b, symbol c, symbol d] =
      .ok ([a, b, c, d], 0) := by
    rw [lastValues_symbol _ _ _ sixA, lastValues_symbol _ _ _ sixB, lastValues_symbol _ _ _ sixC,
      lastValues_symbol _ _ _ sixD]
    rfl
  rw [decodeLast, values]
  simp

/-- Four bytes with nothing behind them are the last ones. -/
theorem decodeFrom_last (start : Nat) (p q r s : UInt8) :
    decodeFrom start [p, q, r, s] = decodeLast start [p, q, r, s] := by
  simp [decodeFrom]

/-- Four symbols with more behind them are three bytes, and reading goes on behind them. -/
theorem decodeFrom_quad (start : Nat) {a b c d : Nat} {rest : Bytes} (sixA : a < 64)
    (sixB : b < 64) (sixC : c < 64) (sixD : d < 64) (more : rest ≠ []) :
    decodeFrom start (symbol a :: symbol b :: symbol c :: symbol d :: rest) =
      (decodeFrom (start + 4) rest).map fun bytes =>
        UInt8.ofNat (a * 4 + b / 16) :: UInt8.ofNat (b * 16 + c / 4) ::
          UInt8.ofNat (c * 64 + d) :: bytes := by
  obtain ⟨first, others, rfl⟩ := List.exists_cons_of_ne_nil more
  simp only [decodeFrom, valueAt_symbol _ sixA, valueAt_symbol _ sixB, valueAt_symbol _ sixC,
    valueAt_symbol _ sixD]
  cases decodeFrom (start + 4) (first :: others) <;> rfl

/-- The first byte of a group stands in the first two values. -/
theorem first_of_group (a b : UInt8) :
    UInt8.ofNat (a.toNat / 4 * 4 + (a.toNat % 4 * 16 + b.toNat / 16) / 16) = a := by
  have byteA := a.toNat_lt
  have byteB := b.toNat_lt
  exact Bytes.ofNat_eq (by omega)

/-- What was written is read back, from whatever offset reading starts at. -/
theorem decodeFrom_encode (start : Nat) (bytes : Bytes) :
    decodeFrom start (encode bytes) = .ok bytes := by
  induction bytes using encode.induct generalizing start with
  | case1 => rfl
  | case2 a =>
      have byteA := a.toNat_lt
      have first : UInt8.ofNat (a.toNat / 4 * 4 + a.toNat % 4 * 16 / 16) = a :=
        Bytes.ofNat_eq (by omega)
      rw [encode, decodeFrom_last, decodeLast_one start (by omega) (by omega) (by omega), first]
  | case3 a b =>
      have byteA := a.toNat_lt
      have byteB := b.toNat_lt
      have second :
          UInt8.ofNat ((a.toNat % 4 * 16 + b.toNat / 16) * 16 + b.toNat % 16 * 4 / 4) = b :=
        Bytes.ofNat_eq (by omega)
      rw [encode, decodeFrom_last, decodeLast_two start (by omega) (by omega) (by omega) (by omega),
        first_of_group, second]
  | case4 a b c rest ih =>
      have byteA := a.toNat_lt
      have byteB := b.toNat_lt
      have byteC := c.toNat_lt
      have second : UInt8.ofNat ((a.toNat % 4 * 16 + b.toNat / 16) * 16 +
          (b.toNat % 16 * 4 + c.toNat / 64) / 4) = b :=
        Bytes.ofNat_eq (by omega)
      have third :
          UInt8.ofNat ((b.toNat % 16 * 4 + c.toNat / 64) * 64 + c.toNat % 64) = c :=
        Bytes.ofNat_eq (by omega)
      rw [encode]
      -- A last group of three bytes comes to the rules of padding too, and has none.
      by_cases last : rest = []
      · rw [last, encode, decodeFrom_last,
          decodeLast_three start (by omega) (by omega) (by omega) (by omega), first_of_group,
          second, third]
      · have more : encode rest ≠ [] := by
          intro empty
          have count := length_encode rest
          have nonempty := List.length_pos_iff.mpr last
          rw [empty, List.length_nil] at count
          omega
        rw [decodeFrom_quad start (by omega) (by omega) (by omega) (by omega) more, ih,
          first_of_group, second, third]
        rfl

/-- The written form of bytes is read as those bytes. -/
@[simp] theorem decode_encode (bytes : Bytes) : decode (encode bytes) = .ok bytes := by
  rw [decode, stray?_encode, decodeFrom_encode]

/-! ## Nothing else is read -/

/-- The values in front of the padding are those of the symbols that stand there. -/
theorem eq_of_lastValues {start place pads : Nat} {quad : Bytes} {values : List Nat}
    (read : lastValues start place quad = .ok (values, pads)) :
    quad = values.map symbol ++ List.replicate pads pad ∧ ∀ value ∈ values, value < 64 := by
  induction quad generalizing place values with
  | nil =>
      cases read
      simp
  | cons byte rest ih =>
      rw [lastValues] at read
      split at read
      next padding =>
        split at read
        next => cases read
        next inPlace =>
          cases read
          have padded : ∀ other ∈ rest, other = pad := by
            simp only [not_or, List.any_eq_true, bne_iff_ne, ne_eq, not_exists, not_and,
              Decidable.not_not] at inPlace
            exact inPlace.2
          rw [padding, List.eq_replicate_of_mem padded]
          simp [List.replicate_succ]
      next =>
        split at read
        next => cases read
        next value known =>
          split at read
          next => cases read
          next behind behindPads readBehind =>
            cases read
            obtain ⟨six, same⟩ := symbol_of_valueAt known
            obtain ⟨shape, small⟩ := ih readBehind
            constructor
            · rw [same, shape, List.map_cons, List.cons_append]
            · exact List.forall_mem_cons.mpr ⟨six, small⟩

theorem encode_one {a b : Nat} (sixA : a < 64) (sixB : b < 64) (unused : b % 16 = 0) :
    encode [UInt8.ofNat (a * 4 + b / 16)] = [symbol a, symbol b, pad, pad] := by
  have first : (a * 4 + b / 16) % 2 ^ 8 / 4 = a := by omega
  have second : (a * 4 + b / 16) % 2 ^ 8 % 4 * 16 = b := by omega
  rw [encode, UInt8.toNat_ofNat', first, second]

theorem encode_two {a b c : Nat} (sixA : a < 64) (sixB : b < 64) (sixC : c < 64)
    (unused : c % 4 = 0) :
    encode [UInt8.ofNat (a * 4 + b / 16), UInt8.ofNat (b * 16 + c / 4)] =
      [symbol a, symbol b, symbol c, pad] := by
  have first : (a * 4 + b / 16) % 2 ^ 8 / 4 = a := by omega
  have second : (a * 4 + b / 16) % 2 ^ 8 % 4 * 16 + (b * 16 + c / 4) % 2 ^ 8 / 16 = b := by omega
  have third : (b * 16 + c / 4) % 2 ^ 8 % 16 * 4 = c := by omega
  rw [encode, UInt8.toNat_ofNat', UInt8.toNat_ofNat', first, second, third]

theorem encode_quad {a b c d : Nat} (rest : Bytes) (sixA : a < 64) (sixB : b < 64)
    (sixC : c < 64) (sixD : d < 64) :
    encode (UInt8.ofNat (a * 4 + b / 16) :: UInt8.ofNat (b * 16 + c / 4) ::
        UInt8.ofNat (c * 64 + d) :: rest) =
      symbol a :: symbol b :: symbol c :: symbol d :: encode rest := by
  have first : (a * 4 + b / 16) % 2 ^ 8 / 4 = a := by omega
  have second : (a * 4 + b / 16) % 2 ^ 8 % 4 * 16 + (b * 16 + c / 4) % 2 ^ 8 / 16 = b := by omega
  have third : (b * 16 + c / 4) % 2 ^ 8 % 16 * 4 + (c * 64 + d) % 2 ^ 8 / 64 = c := by omega
  have fourth : (c * 64 + d) % 2 ^ 8 % 64 = d := by omega
  rw [encode, UInt8.toNat_ofNat', UInt8.toNat_ofNat', UInt8.toNat_ofNat', first, second, third,
    fourth]

/-- The last symbols that are read are the written form of what they are read as: the count of
values fixes the padding, and the bits that no byte takes are zero. -/
theorem eq_encode_of_decodeLast {start : Nat} {quad bytes : Bytes}
    (read : decodeLast start quad = .ok bytes) : quad = encode bytes := by
  unfold decodeLast at read
  split at read
  next => cases read
  next values pads readValues =>
    obtain ⟨shape, small⟩ := eq_of_lastValues readValues
    split at read
    next => cases read
    next enough =>
      split at read
      next => cases read
      next whole =>
        match values with
        | [a, b] =>
            simp only [List.forall_mem_cons] at small
            have two : pads = 2 := by
              simp only [List.length_cons, List.length_nil] at whole
              omega
            dsimp only at read
            split at read
            next => cases read
            next unused =>
              cases read
              rw [shape, two, encode_one small.1 small.2.1 (by omega)]
              rfl
        | [a, b, c] =>
            simp only [List.forall_mem_cons] at small
            have one : pads = 1 := by
              simp only [List.length_cons, List.length_nil] at whole
              omega
            dsimp only at read
            split at read
            next => cases read
            next unused =>
              cases read
              rw [shape, one, encode_two small.1 small.2.1 small.2.2.1 (by omega)]
              rfl
        | [a, b, c, d] =>
            simp only [List.forall_mem_cons] at small
            have noPad : pads = 0 := by
              simp only [List.length_cons, List.length_nil] at whole
              omega
            cases read
            rw [shape, noPad, encode_quad [] small.1 small.2.1 small.2.2.1 small.2.2.2.1]
            rfl
        | [] => cases read
        | [_] => cases read
        | _ :: _ :: _ :: _ :: _ :: _ => cases read

/-- What is read is the written form of what it is read as: by quads to the last one. -/
theorem eq_encode_of_decodeFrom {start : Nat} {input bytes : Bytes}
    (read : decodeFrom start input = .ok bytes) : input = encode bytes := by
  induction start, input using decodeFrom.induct generalizing bytes with
  | case1 =>
      cases read
      rfl
  | case2 _ _ _ _ _ _ _ _ refused => simp [decodeFrom, refused] at read
  | case3 _ _ _ _ _ _ _ _ first _ refused => simp [decodeFrom, first, refused] at read
  | case4 _ _ _ _ _ _ _ _ first _ second _ refused =>
      simp [decodeFrom, first, second, refused] at read
  | case5 _ _ _ _ _ _ _ _ first _ second _ third _ refused =>
      simp [decodeFrom, first, second, third, refused] at read
  | case6 _ _ _ _ _ _ _ _ first _ second _ third _ fourth _ refused =>
      simp [decodeFrom, first, second, third, fourth, refused] at read
  | case7 start p q r s t rest a first b second c third d fourth behind readBehind ih =>
      simp only [decodeFrom, first, second, third, fourth, readBehind] at read
      cases read
      obtain ⟨sixA, isA⟩ := symbol_of_valueAt first
      obtain ⟨sixB, isB⟩ := symbol_of_valueAt second
      obtain ⟨sixC, isC⟩ := symbol_of_valueAt third
      obtain ⟨sixD, isD⟩ := symbol_of_valueAt fourth
      rw [isA, isB, isC, isD, ih readBehind, encode_quad behind sixA sixB sixC sixD]
  | case8 start quad nonempty few =>
      rw [decodeFrom] at read
      · exact eq_encode_of_decodeLast read
      · exact nonempty
      · exact few

/-- Base64 is read exactly where it was written. -/
theorem decode_eq_ok_iff {input bytes : Bytes} :
    decode input = .ok bytes ↔ input = encode bytes := by
  constructor
  · intro read
    unfold decode at read
    split at read
    · cases read
    · exact eq_encode_of_decodeFrom read
  · rintro rfl
    exact decode_encode bytes

end FrameLink.Base64
