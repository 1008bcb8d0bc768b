import RelyingParty.Proofs.Token.Canonical

/-!
# Segments

What is put together comes apart again: bytes in base64url are decoded to the bytes, and a text of
three segments with dots between them is split at the dots.
-/

namespace RelyingParty

open Text

namespace Base64Url

/-- The symbol for six bits stands for them, and is not the padding symbol. -/
theorem sextet?_symbol {n : Nat} (h : n < 64) : sextet? (symbol n) = some n ∧ symbol n ≠ pad := by
  have hall : ∀ k : Fin 64, sextet? (symbol k) = some k.val ∧ symbol k ≠ pad := by
    decide +kernel
  exact hall ⟨n, h⟩

theorem sextetAt_symbol (offset : Nat) {n : Nat} (h : n < 64) :
    sextetAt offset (symbol n) = .ok n := by
  simp only [sextetAt, (sextet?_symbol h).1]

/-- Symbols for six bits each have no padding behind them. -/
theorem splitPadding_symbols (offset index : Nat) (found : List Nat) (h : ∀ n ∈ found, n < 64) :
    splitPadding offset index (found.map symbol) = .ok (found, 0) := by
  induction found generalizing index with
  | nil => rfl
  | cons n rest ih =>
    have hn := h n List.mem_cons_self
    have hrest := ih (index + 1) fun m hm => h m (List.mem_cons_of_mem _ hm)
    simp only [List.map_cons, splitPadding, if_neg (sextet?_symbol hn).2]
    exact bind_eq_ok.mpr ⟨n, sextetAt_symbol _ hn, bind_eq_ok.mpr ⟨_, hrest, rfl⟩⟩

/-- The group of one byte is decoded to it. -/
theorem decodeLast_one (offset : Nat) (a : UInt8) :
    decodeLast offset [symbol (a.toNat / 4), symbol (a.toNat % 4 * 16)] = .ok [a] := by
  have ha := a.toNat_lt
  have hsplit := splitPadding_symbols offset 0
    [a.toNat / 4, a.toNat % 4 * 16] (by simp; omega)
  refine bind_eq_ok.mpr ⟨_, hsplit, ?_⟩
  have hspare : a.toNat % 4 * 16 % 16 = 0 := by omega
  have hbyte : a.toNat / 4 * 4 + a.toNat % 4 * 16 / 16 = a.toNat := by omega
  simp only [hspare, hbyte, UInt8.ofNat_toNat, ne_eq, not_true_eq_false, if_false]

/-- The group of two bytes is decoded to them. -/
theorem decodeLast_two (offset : Nat) (a b : UInt8) :
    decodeLast offset [symbol (a.toNat / 4), symbol (a.toNat % 4 * 16 + b.toNat / 16),
      symbol (b.toNat % 16 * 4)] = .ok [a, b] := by
  have ha := a.toNat_lt
  have hb := b.toNat_lt
  have hsplit := splitPadding_symbols offset 0
    [a.toNat / 4, a.toNat % 4 * 16 + b.toNat / 16, b.toNat % 16 * 4] (by simp; omega)
  refine bind_eq_ok.mpr ⟨_, hsplit, ?_⟩
  have hspare : b.toNat % 16 * 4 % 4 = 0 := by omega
  have hfirst : a.toNat / 4 * 4 + (a.toNat % 4 * 16 + b.toNat / 16) / 16 = a.toNat := by omega
  have hsecond : (a.toNat % 4 * 16 + b.toNat / 16) % 16 * 16 + b.toNat % 16 * 4 / 4 =
      b.toNat := by omega
  simp only [hspare, hfirst, hsecond, UInt8.ofNat_toNat, ne_eq, not_true_eq_false, if_false]

/-- The four sextets of three bytes are of six bits each, and the bytes are put together from them
again. -/
theorem sextets_of_group (a b c : UInt8) :
    (∀ n ∈ [a.toNat / 4, a.toNat % 4 * 16 + b.toNat / 16, b.toNat % 16 * 4 + c.toNat / 64,
      c.toNat % 64], n < 64) ∧
    [UInt8.ofNat (a.toNat / 4 * 4 + (a.toNat % 4 * 16 + b.toNat / 16) / 16),
      UInt8.ofNat ((a.toNat % 4 * 16 + b.toNat / 16) % 16 * 16 +
        (b.toNat % 16 * 4 + c.toNat / 64) / 4),
      UInt8.ofNat ((b.toNat % 16 * 4 + c.toNat / 64) % 4 * 64 + c.toNat % 64)] = [a, b, c] := by
  have ha := a.toNat_lt
  have hb := b.toNat_lt
  have hc := c.toNat_lt
  have hfirst : a.toNat / 4 * 4 + (a.toNat % 4 * 16 + b.toNat / 16) / 16 = a.toNat := by omega
  have hsecond : (a.toNat % 4 * 16 + b.toNat / 16) % 16 * 16 +
      (b.toNat % 16 * 4 + c.toNat / 64) / 4 = b.toNat := by omega
  have hthird : (b.toNat % 16 * 4 + c.toNat / 64) % 4 * 64 + c.toNat % 64 = c.toNat := by omega
  refine ⟨by simp; omega, ?_⟩
  simp only [hfirst, hsecond, hthird, UInt8.ofNat_toNat]

/-- What bytes are encoded as is decoded to them, group by group. -/
theorem decodeFrom_encode (offset : Nat) (bytes : Bytes) :
    decodeFrom offset (encode bytes) = .ok bytes := by
  fun_induction encode bytes generalizing offset with
  | case1 => rfl
  | case2 a => exact decodeLast_one offset a
  | case3 a b => exact decodeLast_two offset a b
  | case4 a b c rest ih =>
    obtain ⟨hbound, hbytes⟩ := sextets_of_group a b c
    simp only [List.forall_mem_cons, List.not_mem_nil, false_implies, implies_true, and_true]
      at hbound
    obtain ⟨hp, hq, hr, hs⟩ := hbound
    cases hrest : encode rest with
    | nil =>
      -- nothing is encoded as nothing but no bytes, so this is the last group
      obtain rfl : rest = [] := by
        have hlater := ih 0
        rw [hrest] at hlater
        exact (Except.ok.inj hlater).symm
      have hsplit := splitPadding_symbols offset 0 [a.toNat / 4,
        a.toNat % 4 * 16 + b.toNat / 16, b.toNat % 16 * 4 + c.toNat / 64, c.toNat % 64]
        (by simp [hp, hq, hr, hs])
      refine bind_eq_ok.mpr ⟨_, hsplit, ?_⟩
      exact congrArg Except.ok hbytes
    | cons e later =>
      have hlater := ih (offset + 4)
      rw [hrest] at hlater
      refine bind_eq_ok.mpr ⟨_, sextetAt_symbol _ hp, ?_⟩
      refine bind_eq_ok.mpr ⟨_, sextetAt_symbol _ hq, ?_⟩
      refine bind_eq_ok.mpr ⟨_, sextetAt_symbol _ hr, ?_⟩
      refine bind_eq_ok.mpr ⟨_, sextetAt_symbol _ hs, ?_⟩
      refine bind_eq_ok.mpr ⟨rest, hlater, ?_⟩
      exact congrArg (fun group => Except.ok (group ++ rest)) hbytes

/-- A group of symbols is never one symbol over. -/
theorem length_encode_mod (bytes : Bytes) : (encode bytes).length % 4 ≠ 1 := by
  fun_induction encode bytes with
  | case1 => decide
  | case2 a => simp
  | case3 a b => simp
  | case4 a b c rest ih =>
    simp only [List.length_cons]
    omega

/-- What bytes are encoded as is decoded to them. -/
theorem decode_encode (bytes : Bytes) : decode (encode bytes) = .ok bytes := by
  have hfrom := decodeFrom_encode 0 bytes
  unfold decode
  split
  · next hlast =>
    rw [List.getLast?_eq_none_iff.mp hlast] at hfrom
    exact hfrom
  · simp only [length_encode_mod, decide_false, Bool.false_and, Bool.false_eq_true, if_false]
    exact hfrom

/-- The text of bytes stands for them. -/
theorem decodeText_encodeText (bytes : Bytes) : decodeText (encodeText bytes) = .ok bytes := by
  rw [decodeText, utf8_encodeText, decode_encode]

end Base64Url

/-- The text of three segments without dots is split into them. -/
theorem Segments.ofText?_join (segments : Segments)
    (undotted : ∀ segment ∈ [segments.header, segments.payload, segments.signature],
      '.' ∉ segment.toList) :
    ofText? (segments.header ++ "." ++ segments.payload ++ "." ++ segments.signature) =
      some segments := by
  have hclear : ∀ segment ∈ [segments.header.toList, segments.payload.toList,
      segments.signature.toList], '.' ∉ segment := by
    simpa using undotted
  have htext : (segments.header ++ "." ++ segments.payload ++ "." ++ segments.signature).toList =
      ['.'].intercalate [segments.header.toList, segments.payload.toList,
        segments.signature.toList] := by
    simp [List.intercalate]
  simp only [ofText?, htext, List.splitOn_intercalate _ hclear (by simp), String.ofList_toList]

end RelyingParty
