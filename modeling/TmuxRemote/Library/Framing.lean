import TmuxRemote.Library.BigEndian

/-!
# Library/Framing — length-prefixed messages over a stream that splits them anywhere

A frame is a four byte big-endian length followed by as many bytes.  A `Source` is what a reader
can fill a buffer of a given size from; its laws say that it yields the bytes still to come, in
order, however it buffers them.  The read loop over any source then hands on the payloads of the
frames in the stream (`readLoop_frames`), and stops for good at a length it does not accept
(`readLoop_refused`) or at a frame that is not all there (`readLoop_partial`).
-/

namespace Framing

/-! ## Lengths -/

/-- The four big-endian bytes of a length, which is taken modulo `2 ^ 32`. -/
def lengthBytes (n : ℕ) : List UInt8 := BigEndian.toBytes 4 n

/-- The length that four bytes stand for. -/
def lengthValue (bytes : List UInt8) : ℕ := BigEndian.value bytes

@[simp] theorem length_lengthBytes (n : ℕ) : (lengthBytes n).length = 4 :=
  BigEndian.length_toBytes 4 n

theorem lengthValue_lengthBytes {n : ℕ} (h : n < 2 ^ 32) : lengthValue (lengthBytes n) = n :=
  BigEndian.value_toBytes h

theorem lengthValue_lt {bytes : List UInt8} (h : bytes.length = 4) :
    lengthValue bytes < 2 ^ 32 := by
  have hlt := BigEndian.value_lt bytes
  rwa [h] at hlt

/-- A frame: the length of the payload, and the payload. -/
def frame (payload : List UInt8) : List UInt8 := lengthBytes payload.length ++ payload

/-! ## Sources -/

/-- What a reader fills its buffers from.  `content` is what is still to come before the stream
closes; `Intact` is what the stream promises. -/
structure Source (τ : Type*) where
  content : τ → List UInt8
  Intact : τ → Prop
  /-- Wait for so many bytes; `none` when the stream closes before. -/
  readExactly : ℕ → τ → Option (List UInt8 × τ)
  readExactly_of_le : ∀ {n t}, Intact t → n ≤ (content t).length →
    ∃ t', readExactly n t = some ((content t).take n, t') ∧ content t' = (content t).drop n
      ∧ Intact t'
  readExactly_of_lt : ∀ {n t}, Intact t → (content t).length < n → readExactly n t = none
  /-- Whether or not the stream keeps its promise, what is read is gone. -/
  length_readExactly : ∀ {n t bytes t'}, readExactly n t = some (bytes, t') →
    (content t').length + n = (content t).length

namespace Source

variable {τ ω : Type*} (src : Source τ) (accepts : ℕ → Bool) (hand : List UInt8 → List UInt8 → ω)

/-- The read loop: a length, and as many bytes, which are handed on; until a length is not accepted
or the stream closes. -/
def readLoop (t : τ) : List ω :=
  match _hlength : src.readExactly 4 t with
  | none => []
  | some (lengthBuf, t₁) =>
    if accepts (lengthValue lengthBuf) then
      match _hpayload : src.readExactly (lengthValue lengthBuf) t₁ with
      | none => []
      | some (payload, t₂) => hand lengthBuf payload :: readLoop t₂
    else []
  termination_by (src.content t).length
  decreasing_by
    have h₁ := src.length_readExactly _hlength
    have h₂ := src.length_readExactly _hpayload
    omega

variable {src accepts hand} {t : τ}

/-- Reading what comes next. -/
theorem readExactly_append {xs ys : List UInt8} (ht : src.Intact t)
    (hcontent : src.content t = xs ++ ys) :
    ∃ t', src.readExactly xs.length t = some (xs, t') ∧ src.content t' = ys ∧ src.Intact t' := by
  have hle : xs.length ≤ (src.content t).length := by
    rw [hcontent, List.length_append]
    omega
  obtain ⟨t', hread, hrest, ht'⟩ := src.readExactly_of_le ht hle
  rw [hcontent, List.take_left] at hread
  rw [hcontent, List.drop_left] at hrest
  exact ⟨t', hread, hrest, ht'⟩

/-- A read that succeeds yields what was asked for. -/
theorem readExactly_eq_some {n : ℕ} {bytes : List UInt8} {t' : τ} (ht : src.Intact t)
    (h : src.readExactly n t = some (bytes, t')) : bytes.length = n ∧ src.Intact t' := by
  have hle : n ≤ (src.content t).length := by
    have := src.length_readExactly h
    omega
  obtain ⟨t'', hread, -, ht''⟩ := src.readExactly_of_le ht hle
  rw [h] at hread
  obtain ⟨rfl, rfl⟩ := Prod.mk.inj (Option.some.inj hread)
  exact ⟨List.length_take_of_le hle, ht''⟩

/-- **One frame**: its payload is handed on, and the loop goes on behind it. -/
theorem readLoop_frame {payload rest : List UInt8} (ht : src.Intact t)
    (hcontent : src.content t = frame payload ++ rest) (hlength : payload.length < 2 ^ 32)
    (haccepts : accepts payload.length = true) :
    ∃ t', src.content t' = rest ∧ src.Intact t'
      ∧ src.readLoop accepts hand t
        = hand (lengthBytes payload.length) payload :: src.readLoop accepts hand t' := by
  rw [frame, List.append_assoc] at hcontent
  obtain ⟨t₁, hread₁, hrest₁, ht₁⟩ := readExactly_append ht hcontent
  obtain ⟨t₂, hread₂, hrest₂, ht₂⟩ := readExactly_append ht₁ hrest₁
  refine ⟨t₂, hrest₂, ht₂, ?_⟩
  rw [readLoop]
  split
  · next hnone =>
    rw [length_lengthBytes, hnone] at hread₁
    exact nomatch hread₁
  · next lengthBuf t₁' hsome =>
    rw [length_lengthBytes, hsome] at hread₁
    obtain ⟨rfl, rfl⟩ := Prod.mk.inj (Option.some.inj hread₁)
    rw [lengthValue_lengthBytes hlength, if_pos haccepts]
    split
    · next hnone =>
      rw [hnone] at hread₂
      exact nomatch hread₂
    · next payload' t₂' hsome' =>
      rw [hsome'] at hread₂
      obtain ⟨rfl, rfl⟩ := Prod.mk.inj (Option.some.inj hread₂)
      rfl

/-- **A list of frames**: their payloads are handed on in order, and the loop goes on behind
them. -/
theorem readLoop_frames {rest : List UInt8} :
    ∀ {payloads : List (List UInt8)} {t : τ}, src.Intact t →
      src.content t = (payloads.map frame).flatten ++ rest →
      (∀ payload ∈ payloads, payload.length < 2 ^ 32 ∧ accepts payload.length = true) →
      ∃ t', src.content t' = rest ∧ src.Intact t'
        ∧ src.readLoop accepts hand t
          = payloads.map (fun payload => hand (lengthBytes payload.length) payload)
            ++ src.readLoop accepts hand t'
  | [], t, ht, hcontent, _ => ⟨t, hcontent, ht, rfl⟩
  | payload :: payloads, t, ht, hcontent, hall => by
      rw [List.map_cons, List.flatten_cons, List.append_assoc] at hcontent
      obtain ⟨hpayload, hrest⟩ := List.forall_mem_cons.mp hall
      obtain ⟨t₁, hcontent₁, ht₁, hloop⟩ :=
        @readLoop_frame _ _ _ _ hand _ _ _ ht hcontent hpayload.1 hpayload.2
      obtain ⟨t', hcontent', ht', hloop'⟩ := readLoop_frames ht₁ hcontent₁ hrest
      exact ⟨t', hcontent', ht', by rw [hloop, hloop', List.map_cons, List.cons_append]⟩

/-- **A refused length** ends the loop. -/
theorem readLoop_refused {lengthBuf rest : List UInt8} (ht : src.Intact t)
    (hcontent : src.content t = lengthBuf ++ rest) (hlength : lengthBuf.length = 4)
    (hrefused : accepts (lengthValue lengthBuf) = false) : src.readLoop accepts hand t = [] := by
  obtain ⟨t₁, hread, -, -⟩ := readExactly_append ht hcontent
  rw [readLoop]
  split
  · rfl
  · next lengthBuf' t₁' hsome =>
    rw [hlength, hsome] at hread
    obtain ⟨rfl, rfl⟩ := Prod.mk.inj (Option.some.inj hread)
    rw [if_neg (Bool.eq_false_iff.mp hrefused)]

/-- **A frame that is not all there** is not handed on. -/
theorem readLoop_partial {payload : List UInt8} (ht : src.Intact t)
    (hlength : payload.length < 2 ^ 32) (hpart : src.content t <+: frame payload)
    (hshort : (src.content t).length < (frame payload).length) :
    src.readLoop accepts hand t = [] := by
  rw [frame, List.length_append, length_lengthBytes] at hshort
  rw [readLoop]
  split
  · rfl
  · next lengthBuf t₁ hsome =>
    have hfour : 4 ≤ (src.content t).length := by
      have := src.length_readExactly hsome
      omega
    obtain ⟨t₁', hread, hrest, ht₁⟩ := src.readExactly_of_le ht hfour
    have hlengthBuf : (src.content t).take 4 = lengthBytes payload.length := by
      rw [List.prefix_iff_eq_take.mp hpart, List.take_take, Nat.min_eq_left hfour, frame,
        List.take_left' (length_lengthBytes _)]
    rw [hsome, hlengthBuf] at hread
    obtain ⟨rfl, rfl⟩ := Prod.mk.inj (Option.some.inj hread)
    rw [lengthValue_lengthBytes hlength]
    split_ifs
    · have hlt : (src.content t₁).length < payload.length := by
        rw [hrest, List.length_drop]
        omega
      split
      · rfl
      · next _ t₂ hsome' =>
        rw [src.readExactly_of_lt ht₁ hlt] at hsome'
        exact nomatch hsome'
    · rfl

/-- **Whatever is handed on** is made of a length that was accepted and of as many bytes. -/
theorem mem_readLoop {x : ω} {t : τ} (ht : src.Intact t) (hx : x ∈ src.readLoop accepts hand t) :
    ∃ lengthBuf payload : List UInt8, x = hand lengthBuf payload ∧ lengthBuf.length = 4
      ∧ accepts (lengthValue lengthBuf) = true ∧ payload.length = lengthValue lengthBuf := by
  induction hn : (src.content t).length using Nat.strong_induction_on generalizing t with
  | _ n ih =>
    rw [readLoop] at hx
    split at hx
    · exact absurd hx List.not_mem_nil
    · next lengthBuf t₁ hlengthBuf =>
      obtain ⟨hfour, ht₁⟩ := readExactly_eq_some ht hlengthBuf
      split_ifs at hx with haccepts
      · split at hx
        · exact absurd hx List.not_mem_nil
        · next payload t₂ hpayload =>
          obtain ⟨hlength, ht₂⟩ := readExactly_eq_some ht₁ hpayload
          obtain rfl | hx := List.mem_cons.mp hx
          · exact ⟨lengthBuf, payload, rfl, hfour, haccepts, hlength⟩
          · have h₁ := src.length_readExactly hlengthBuf
            have h₂ := src.length_readExactly hpayload
            exact ih _ (by omega) ht₂ hx rfl
      · exact absurd hx List.not_mem_nil

end Source

end Framing
