import TmuxRemote.Library.Cbor

/-!
# Library/CborEncoder — encoding item by item into a bounded buffer

An encoder writes items as it is called, and containers through encoders of their own that are
closed into their parents.  What does not fit the buffer is only counted, so the errors of the
single calls can be left alone: a close reports that something is missing, or that the container
does not have the items it was created with.

`EncoderState` says what the calls amount to; an `EncoderApi` is any implementation that keeps to
it.
-/

namespace Cbor

/-- What an encoder stands for. -/
@[ext] structure EncoderState where
  capacity : ℕ
  /-- All that it was asked to write, whether or not it has fitted. -/
  emitted : List UInt8
  /-- One more than the items still expected. -/
  remaining : ℕ

namespace EncoderState

def init (capacity : ℕ) : EncoderState :=
  { capacity := capacity, emitted := [], remaining := 2 }

/-- One more item. -/
def emit (e : EncoderState) (item : List UInt8) : EncoderState :=
  { e with emitted := e.emitted ++ item, remaining := e.remaining - 1 }

/-- The container encoder for so many items. -/
def container (e : EncoderState) (head : List UInt8) (count : ℕ) : EncoderState :=
  { e with emitted := e.emitted ++ head, remaining := count + 1 }

/-- The parent once the container is closed. -/
def close (e child : EncoderState) : EncoderState :=
  { e with emitted := child.emitted, remaining := e.remaining - 1 }

section
variable (e child : EncoderState) (bytes : List UInt8) (count : ℕ)

@[simp] theorem capacity_emit : (e.emit bytes).capacity = e.capacity := rfl

@[simp] theorem emitted_emit : (e.emit bytes).emitted = e.emitted ++ bytes := rfl

@[simp] theorem remaining_emit : (e.emit bytes).remaining = e.remaining - 1 := rfl

@[simp] theorem capacity_container : (e.container bytes count).capacity = e.capacity := rfl

@[simp] theorem emitted_container : (e.container bytes count).emitted = e.emitted ++ bytes := rfl

@[simp] theorem remaining_container : (e.container bytes count).remaining = count + 1 := rfl

@[simp] theorem capacity_close : (e.close child).capacity = e.capacity := rfl

@[simp] theorem emitted_close : (e.close child).emitted = child.emitted := rfl

@[simp] theorem remaining_close : (e.close child).remaining = e.remaining - 1 := rfl

end

def Fits (e : EncoderState) : Prop := e.emitted.length ≤ e.capacity

/-- The container has all its items. -/
def Complete (e : EncoderState) : Prop := e.remaining = 1

instance (e : EncoderState) : Decidable e.Fits := inferInstanceAs (Decidable (_ ≤ _))

instance (e : EncoderState) : Decidable e.Complete := inferInstanceAs (Decidable (_ = _))

/-- One item after the other. -/
def emitItems (e : EncoderState) (items : List Cbor) : EncoderState :=
  items.foldl (fun e item => e.emit item.encode) e

theorem emitItems_cons (e : EncoderState) (item : Cbor) (items : List Cbor) :
    e.emitItems (item :: items) = (e.emit item.encode).emitItems items := rfl

theorem emitItems_eq (e : EncoderState) (items : List Cbor) :
    e.emitItems items
      = { e with
          emitted := e.emitted ++ encodeItems items
          remaining := e.remaining - items.length } := by
  induction items generalizing e with
  | nil => simp [emitItems, encodeItems]
  | cons item items ih =>
    rw [emitItems_cons, ih]
    simp [encodeItems, Nat.sub_sub, Nat.add_comm]

/-- What has been emitted before fits if all does. -/
theorem fits_of_emitItems {e : EncoderState} {items : List Cbor} (h : (e.emitItems items).Fits) :
    e.Fits := by
  rw [emitItems_eq, Fits, List.length_append] at h
  exact Nat.le_trans (Nat.le_add_right _ _) h

end EncoderState

/-- An encoder library. -/
structure EncoderApi where
  /-- An encoder, with the buffer it writes to. -/
  Encoder : Type
  init : ℕ → Encoder
  createMap : Encoder → ℕ → Encoder
  createArray : Encoder → ℕ → Encoder
  encodeText : Encoder → List UInt8 → Encoder
  encodeUint : Encoder → UInt64 → Encoder
  /-- The parent with the container closed, and whether there was no error. -/
  closeContainer : Encoder → Encoder → Encoder × Bool
  /-- What the buffer holds. -/
  buffer : Encoder → List UInt8
  extraBytesNeeded : Encoder → ℕ
  state : Encoder → EncoderState
  state_init : ∀ capacity, state (init capacity) = .init capacity
  state_createMap : ∀ e count,
    state (createMap e count) = (state e).container (head 5 count) (2 * count)
  state_createArray : ∀ e count,
    state (createArray e count) = (state e).container (head 4 count) count
  state_encodeText : ∀ e content,
    state (encodeText e content) = (state e).emit (text content).encode
  state_encodeUint : ∀ e n, state (encodeUint e n) = (state e).emit (unsigned n).encode
  state_closeContainer : ∀ e child,
    state (closeContainer e child).1 = (state e).close (state child)
  closeContainer_ok : ∀ e child,
    (closeContainer e child).2 = decide ((state child).Complete ∧ (state child).Fits)
  buffer_eq : ∀ e, (state e).Fits → buffer e = (state e).emitted
  extraBytesNeeded_eq : ∀ e, extraBytesNeeded e = (state e).emitted.length - (state e).capacity

attribute [simp] EncoderApi.state_init EncoderApi.state_createMap EncoderApi.state_createArray
  EncoderApi.state_encodeText EncoderApi.state_encodeUint EncoderApi.state_closeContainer

/-- The encoder that is its own state. -/
def referenceEncoder : EncoderApi where
  Encoder := EncoderState
  init := .init
  createMap := fun e count => e.container (head 5 count) (2 * count)
  createArray := fun e count => e.container (head 4 count) count
  encodeText := fun e content => e.emit (text content).encode
  encodeUint := fun e n => e.emit (unsigned n).encode
  closeContainer := fun e child => (e.close child, child.Complete ∧ child.Fits)
  buffer := fun e => e.emitted.take e.capacity
  extraBytesNeeded := fun e => e.emitted.length - e.capacity
  state := id
  state_init := fun _ => rfl
  state_createMap := fun _ _ => rfl
  state_createArray := fun _ _ => rfl
  state_encodeText := fun _ _ => rfl
  state_encodeUint := fun _ _ => rfl
  state_closeContainer := fun _ _ => rfl
  closeContainer_ok := fun _ _ => rfl
  buffer_eq := fun _ hfits => List.take_of_length_le hfits
  extraBytesNeeded_eq := fun _ => rfl

/-- An encoder library that tells how much of the buffer is used, as a pointer into it.  Once the
buffer has overflowed there is no such pointer. -/
structure BufferEncoderApi extends EncoderApi where
  encodeBoolean : Encoder → Bool → Encoder
  bufferSize : Encoder → ℕ
  state_encodeBoolean : ∀ e b,
    state (encodeBoolean e b) = (state e).emit (simple (if b then 21 else 20)).encode
  bufferSize_eq : ∀ e, (state e).Fits → bufferSize e = (state e).emitted.length

attribute [simp] BufferEncoderApi.state_encodeBoolean

/-- The encoder that is its own state; `overflowSize` is what the pointers of an encoder without
room come to. -/
def referenceBufferEncoder (overflowSize : ℕ) : BufferEncoderApi where
  toEncoderApi := referenceEncoder
  encodeBoolean := fun (e : EncoderState) b => e.emit (simple (if b then 21 else 20)).encode
  bufferSize := fun (e : EncoderState) => if e.Fits then e.emitted.length else overflowSize
  state_encodeBoolean := fun _ _ => rfl
  bufferSize_eq := fun _ hfits => if_pos hfits

section
variable {api : EncoderApi}

/-- An array with all its items, as its parent's next item. -/
theorem EncoderApi.state_array {e array : api.Encoder} {items : List Cbor}
    (harray : api.state array = (api.state (api.createArray e items.length)).emitItems items) :
    api.state array
      = { (api.state e) with
          emitted := (api.state e).emitted ++ (Cbor.array items).encode
          remaining := 1 } := by
  rw [harray, EncoderState.emitItems_eq, api.state_createArray]
  simp [encode]

/-- A buffer that starts empty fits what is no longer than it. -/
theorem EncoderApi.fits_init_emit (capacity : ℕ) (item : List UInt8) :
    ((api.state (api.init capacity)).emit item).Fits ↔ item.length ≤ capacity := by
  rw [api.state_init, EncoderState.Fits, EncoderState.emitted_emit, EncoderState.init,
    List.nil_append]
  exact Iff.rfl

/-- The buffer of an item that has fitted holds it. -/
theorem EncoderApi.buffer_of_fits {capacity : ℕ} {item : List UInt8} {e : api.Encoder}
    (he : api.state e = (api.state (api.init capacity)).emit item)
    (hfits : item.length ≤ capacity) : api.buffer e = item := by
  have hbuffer := api.buffer_eq e
  rw [he, api.state_init] at hbuffer
  exact hbuffer hfits

/-- **A container with all its items** is one item of its parent; the close says whether everything
has fitted so far. -/
theorem EncoderApi.closeContainer_spec {e child : api.Encoder} {item : List UInt8}
    (hchild : api.state child
      = { (api.state e) with emitted := (api.state e).emitted ++ item, remaining := 1 }) :
    api.state (api.closeContainer e child).1 = (api.state e).emit item
      ∧ (api.closeContainer e child).2 = decide ((api.state e).emit item).Fits := by
  refine ⟨?_, ?_⟩
  · rw [api.state_closeContainer, hchild]
    rfl
  · rw [api.closeContainer_ok, hchild]
    refine decide_eq_decide.mpr ⟨fun h => h.2, fun h => ⟨rfl, h⟩⟩

end

end Cbor
