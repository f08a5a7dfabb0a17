import Mathlib.Data.List.Pairwise
import TmuxRemote.Agent.App
import TmuxRemote.Library.FallibleFold

/-!
# Wire/EntryOrder — maps whose entries come in another order

A CBOR map is unordered, yet both sides read one with a cursor, pair by pair: the agent's three
handlers and the command line client's listing share that loop (`readFields`).  What the loop
compares is a key as it is copied: up to its first NUL, and at most 31 bytes of it.  As long as no
two keys look the same to it, a value only meets the field that is its own (`IndependentKeys`), and
the order of the entries is of no concern (`entries_any_order`).  Only the error of a refused map
depends on it.
-/

namespace TmuxRemote

open FallibleFold

/-! ## The loop, pair by pair -/

/-- The items of a map, given as its pairs. -/
def pairItems (pairs : List (CborItem × CborItem)) : List CborItem :=
  pairs.flatMap fun (key, value) => [key, value]

/-- The name that the loop compares: what it copies of the key, up to the first NUL. -/
def pairName (pair : CborItem × CborItem) : Option CString :=
  match pair.1 with
  | .text content => (copyTextString keyMax content).map CString.ofBytes
  | _ => none

/-- No name occurs twice. -/
def DistinctNames (pairs : List (CborItem × CborItem)) : Prop := (pairs.filterMap pairName).Nodup

instance (pairs : List (CborItem × CborItem)) : Decidable (DistinctNames pairs) :=
  inferInstanceAs (Decidable (List.Nodup _))

section
variable {φ : Type} {assign : φ → CString → CborItem → Except RequestError φ}
  {pairs order : List (CborItem × CborItem)}

/-- One turn of the loop. -/
def readPair (assign : φ → CString → CborItem → Except RequestError φ) (fields : φ)
    (pair : CborItem × CborItem) : Except RequestError φ :=
  match pair.1 with
  | .text content =>
    match copyTextString keyMax content with
    | none => .error .invalidKey
    | some key => do
      let fields ← assign fields (.ofBytes key) pair.2
      require pair.2.canAdvance .invalidPayload
      .ok fields
  | key => do
    require (key.canAdvance && pair.2.canAdvance) .invalidPayload
    .ok fields

theorem text_or_other (key : CborItem) :
    (∃ content, key = .text content) ∨ ∀ content, key ≠ .text content :=
  (Classical.em _).imp_right not_exists.mp

/-- A key that is no text is passed over with its value. -/
theorem readPair_other {fields : φ} {key value : CborItem} (hkey : ∀ content, key ≠ .text content) :
    readPair assign fields (key, value)
      = require (key.canAdvance && value.canAdvance) .invalidPayload >>= fun _ => .ok fields := by
  cases key with
  | text content => exact absurd rfl (hkey content)
  | _ => rfl

theorem readFields_other {fields : φ} {key value : CborItem} {items : List CborItem}
    (hkey : ∀ content, key ≠ .text content) :
    readFields assign fields (key :: value :: items)
      = require (key.canAdvance && value.canAdvance) .invalidPayload >>= fun _ =>
        readFields assign fields items := by
  cases key with
  | text content => exact absurd rfl (hkey content)
  | _ => rfl

/-- A text that is too long, or damaged, ends the loop. -/
theorem readPair_of_copy_none {fields : φ} {content : Option (List UInt8)} {value : CborItem}
    (hcopy : copyTextString keyMax content = none) :
    readPair assign fields (.text content, value) = .error .invalidKey := by
  simp only [readPair, hcopy]

/-- Under any other text the value is handed to `assign`. -/
theorem readPair_of_copy_some {fields : φ} {content : Option (List UInt8)} {value : CborItem}
    {name : List UInt8} (hcopy : copyTextString keyMax content = some name) :
    readPair assign fields (.text content, value)
      = assign fields (.ofBytes name) value >>= fun fields' =>
        require value.canAdvance .invalidPayload >>= fun _ => .ok fields' := by
  simp only [readPair, hcopy]

/-- The loop is a fold over the pairs. -/
theorem readFields_pairItems (fields : φ) :
    readFields assign fields (pairItems pairs) = pairs.foldlM (readPair assign) fields := by
  induction pairs generalizing fields with
  | nil => rfl
  | cons pair pairs ih =>
    obtain ⟨key, value⟩ := pair
    have hitems : pairItems ((key, value) :: pairs) = key :: value :: pairItems pairs := rfl
    rw [hitems, List.foldlM_cons]
    obtain ⟨content, rfl⟩ | hkey := text_or_other key
    · rw [readFields]
      cases hcopy : copyTextString keyMax content with
      | none =>
        rw [readPair_of_copy_none hcopy]
        rfl
      | some name =>
        rw [readPair_of_copy_some hcopy, bind_assoc]
        refine congrArg (assign fields (.ofBytes name) value >>= ·) (funext fun fields' => ?_)
        rw [bind_assoc, ih]
        rfl
    · rw [readFields_other hkey, readPair_other hkey, bind_assoc, ih]
      rfl

/-- A pair without a name changes nothing. -/
theorem skipped_of_pairName {pair : CborItem × CborItem} (hname : pairName pair = none) :
    Skipped (readPair assign) pair := by
  obtain ⟨key, value⟩ := pair
  intro fields fields' r hread
  obtain ⟨content, rfl⟩ | hkey := text_or_other key
  · rw [readPair_of_copy_none (Option.map_eq_none_iff.mp hname)] at hread
    cases hread
  · rw [readPair_other hkey] at hread ⊢
    obtain ⟨_, hadvance, hread⟩ := bind_eq_ok.mp hread
    rw [require_eq_ok.mp hadvance]
    exact ⟨(Except.ok.inj hread).symm, rfl⟩

/-- A pair with a name hands its value to `assign`. -/
theorem readPair_eq_ok_iff {pair : CborItem × CborItem} {name : CString} {fields fields' : φ}
    (hname : pairName pair = some name) :
    readPair assign fields pair = .ok fields' ↔
      assign fields name pair.2 = .ok fields' ∧ pair.2.canAdvance = true := by
  obtain ⟨key, value⟩ := pair
  cases key with
  | text content =>
    obtain ⟨bytes, hcopy, rfl⟩ := Option.map_eq_some_iff.mp hname
    rw [readPair_of_copy_some hcopy, bind_eq_ok]
    constructor
    · rintro ⟨read, hassign, hrest⟩
      obtain ⟨_, hadvance, hread⟩ := bind_eq_ok.mp hrest
      obtain rfl := Except.ok.inj hread
      exact ⟨hassign, require_eq_ok.mp hadvance⟩
    · rintro ⟨hassign, hadvance⟩
      exact ⟨fields', hassign, bind_eq_ok.mpr ⟨(), require_eq_ok.mpr hadvance, rfl⟩⟩
  | _ => cases hname

/-! ## Values under two keys -/

/-- Values under two keys can be read in either order. -/
def IndependentKeys (assign : φ → CString → CborItem → Except RequestError φ) : Prop :=
  ∀ name other value value', name ≠ other →
    Exchange (fun fields (pair : CString × CborItem) => assign fields pair.1 pair.2)
      (name, value) (other, value')

/-- The loop does not take one pair's key for the other's. -/
def NamesDiffer (pair pair' : CborItem × CborItem) : Prop :=
  ∀ name, pairName pair = some name → pairName pair' ≠ some name

instance : Std.Symm NamesDiffer := ⟨fun _ _ h name hname hname' => h name hname' hname⟩

/-- Two such pairs can be read in either order. -/
theorem exchange_readPair (hassign : IndependentKeys assign) {pair pair' : CborItem × CborItem}
    (hnames : NamesDiffer pair pair') : Exchange (readPair assign) pair pair' := by
  cases hname : pairName pair with
  | none => exact (skipped_of_pairName hname).exchange_left
  | some name =>
    cases hother : pairName pair' with
    | none => exact (skipped_of_pairName hother).exchange_right
    | some other =>
      have hne : name ≠ other := fun h => hnames name hname (h ▸ hother)
      intro fields mid fields' hread hread'
      obtain ⟨hfirst, hadvance⟩ := (readPair_eq_ok_iff hname).mp hread
      obtain ⟨hlast, hadvance'⟩ := (readPair_eq_ok_iff hother).mp hread'
      obtain ⟨mid', hlast', hfirst'⟩ := hassign name other pair.2 pair'.2 hne _ _ _ hfirst hlast
      exact ⟨mid', (readPair_eq_ok_iff hother).mpr ⟨hlast', hadvance'⟩,
        (readPair_eq_ok_iff hname).mpr ⟨hfirst', hadvance⟩⟩

/-- Under distinct names a pair shares its name with itself only. -/
theorem DistinctNames.differ (hdistinct : DistinctNames pairs) :
    ∀ pair ∈ pairs, ∀ pair' ∈ pairs, pair ≠ pair' → NamesDiffer pair pair' := by
  have hpairwise : pairs.Pairwise NamesDiffer := by
    refine (List.pairwise_filterMap.mp hdistinct).imp fun h name hname hname' => ?_
    exact h name hname name hname' rfl
  exact fun pair hpair pair' hpair' hne => hpairwise.forall hpair hpair' hne

/-- The loop reads a map alike in every order of its entries. -/
theorem readFields_perm (hassign : IndependentKeys assign) (hperm : order.Perm pairs)
    (hdistinct : DistinctNames pairs) (fields fields' : φ) :
    readFields assign fields (pairItems order) = .ok fields'
      ↔ readFields assign fields (pairItems pairs) = .ok fields' := by
  have hexchange : ∀ pair ∈ pairs, ∀ pair' ∈ pairs, pair ≠ pair' →
      Exchange (readPair assign) pair pair' := fun pair hpair pair' hpair' hne =>
    exchange_readPair hassign (hdistinct.differ pair hpair pair' hpair' hne)
  rw [readFields_pairItems, readFields_pairItems]
  refine ⟨foldlM_perm hperm fun pair hpair pair' hpair' => ?_, foldlM_perm hperm.symm hexchange⟩
  exact hexchange pair (hperm.mem_iff.mp hpair) pair' (hperm.mem_iff.mp hpair')

end

/-! ## The maps of this repository

A value sets the field of its key, or is refused, whatever the fields are; only texts and numbers
under the keys that a handler knows do anything. -/

theorem AttachFields.independentKeys : IndependentKeys AttachFields.assign := by
  intro name other value value' hne fields mid fields' hfirst hlast
  cases value <;> cases value' <;> grind [AttachFields.assign]

theorem CreateFields.independentKeys : IndependentKeys CreateFields.assign := by
  intro name other value value' hne fields mid fields' hfirst hlast
  cases value <;> cases value' <;> grind [CreateFields.assign]

theorem ResizeFields.independentKeys : IndependentKeys ResizeFields.assign := by
  intro name other value value' hne fields mid fields' hfirst hlast
  cases value <;> cases value' <;> grind [ResizeFields.assign]

theorem ClientSession.independentKeys : IndependentKeys ClientSession.assign := by
  intro name other value value' hne fields mid fields' hfirst hlast
  cases value <;> cases value' <;> grind [ClientSession.assign]

/-! ## What is read -/

/-- The same is read, or both are refused with one response code. -/
inductive ReadAlike {φ : Type} : Except RequestError φ → Except RequestError φ → Prop
  | ok (fields : φ) : ReadAlike (.ok fields) (.ok fields)
  | error {e e' : RequestError} (hcode : e.code = e'.code) : ReadAlike (.error e) (.error e')

namespace ReadAlike

variable {φ ψ : Type} {read read' : Except RequestError φ}

theorem refl : ∀ read : Except RequestError φ, ReadAlike read read
  | .ok fields => ok fields
  | .error _ => error rfl

/-- What follows keeps the outcomes alike. -/
theorem bind (h : ReadAlike read read') (rest : φ → Except RequestError ψ) :
    ReadAlike (read >>= rest) (read' >>= rest) := by
  cases h with
  | ok fields => exact refl (rest fields)
  | error hcode => exact error hcode

end ReadAlike

/-- A reading that fails is answered 400. -/
def FailsWith400 {φ : Type} (read : Except RequestError φ) : Prop :=
  ∀ e, read = .error e → e.code = 400

namespace FailsWith400

variable {φ ψ : Type} {read : Except RequestError φ} {rest : φ → Except RequestError ψ}

theorem ok (fields : φ) : FailsWith400 (.ok fields) := by
  intro e h
  cases h

theorem bind (hread : FailsWith400 read) (hrest : ∀ fields, FailsWith400 (rest fields)) :
    FailsWith400 (read >>= rest) := by
  intro e h
  cases read with
  | ok fields => exact hrest fields e h
  | error e' => exact hread e (congrArg Except.error (Except.error.inj h))

theorem invalidPayload (check : Bool) (fields : φ) :
    FailsWith400 (require check .invalidPayload >>= fun _ => .ok fields) := by
  refine bind (fun e h => ?_) fun _ => ok fields
  cases check with
  | true => cases h
  | false => cases h; rfl

end FailsWith400

/-- A value that is refused is refused with 400. -/
def RefusesWith400 {φ : Type} (assign : φ → CString → CborItem → Except RequestError φ) : Prop :=
  ∀ fields name value e, assign fields name value = .error e → e.code = 400

section
variable {φ : Type} {assign : φ → CString → CborItem → Except RequestError φ}
  {pairs order : List (CborItem × CborItem)}

/-- A pair that ends the loop is answered 400. -/
theorem failsWith400_readPair (hassign : RefusesWith400 assign) (fields : φ)
    (pair : CborItem × CborItem) : FailsWith400 (readPair assign fields pair) := by
  obtain ⟨key, value⟩ := pair
  obtain ⟨content, rfl⟩ | hkey := text_or_other key
  · cases hcopy : copyTextString keyMax content with
    | none =>
      rw [readPair_of_copy_none hcopy]
      rintro e ⟨⟩
      rfl
    | some name =>
      rw [readPair_of_copy_some hcopy]
      exact .bind (hassign fields (.ofBytes name) value) (.invalidPayload value.canAdvance)
  · rw [readPair_other hkey]
    exact .invalidPayload _ fields

/-- So is a map that is refused. -/
theorem failsWith400_readFields (hassign : RefusesWith400 assign) (fields : φ) :
    FailsWith400 (readFields assign fields (pairItems pairs)) := by
  intro e h
  rw [readFields_pairItems] at h
  obtain ⟨pair, -, mid, hpair⟩ := step_eq_error_of_foldlM h
  exact failsWith400_readPair hassign mid pair e hpair

/-- **The loop and the order of the entries**: it reads the same, or refuses with 400. -/
theorem alike_readFields (hassign : IndependentKeys assign) (hrefuses : RefusesWith400 assign)
    (hperm : order.Perm pairs) (hdistinct : DistinctNames pairs) (fields : φ) :
    ReadAlike (readFields assign fields (pairItems order))
      (readFields assign fields (pairItems pairs)) := by
  have hperm' := readFields_perm hassign hperm hdistinct fields
  cases horder : readFields assign fields (pairItems order) with
  | ok read =>
    rw [(hperm' read).mp horder]
    exact .ok read
  | error e =>
    cases hpairs : readFields assign fields (pairItems pairs) with
    | ok read => cases horder.symm.trans ((hperm' read).mpr hpairs)
    | error e' =>
      have hcode := failsWith400_readFields hrefuses fields e horder
      exact .error (hcode.trans (failsWith400_readFields hrefuses fields e' hpairs).symm)

end

theorem AttachFields.refusesWith400 : RefusesWith400 AttachFields.assign := by
  intro fields name value e h
  cases value <;> grind [AttachFields.assign, RequestError.code]

theorem CreateFields.refusesWith400 : RefusesWith400 CreateFields.assign := by
  intro fields name value e h
  cases value <;> grind [CreateFields.assign, RequestError.code]

theorem ResizeFields.refusesWith400 : RefusesWith400 ResizeFields.assign := by
  intro fields name value e h
  cases value <;> grind [ResizeFields.assign, RequestError.code]

/-! ## The handlers -/

/-- A request with a map. -/
def mapRequest (allowed : Bool) (pairs : List (CborItem × CborItem)) : CoapRequest where
  allowed := allowed
  payload := .map (pairItems pairs)

section
variable {pairs order : List (CborItem × CborItem)} (hperm : order.Perm pairs)
  (hdistinct : DistinctNames pairs) (allowed : Bool)

include hperm hdistinct

/-- What a handler reads of the request, and what it checks after that. -/
theorem alike_handler {φ ψ : Type} {assign : φ → CString → CborItem → Except RequestError φ}
    (hassign : IndependentKeys assign) (hrefuses : RefusesWith400 assign) (fields : φ)
    (rest : φ → Except RequestError ψ) :
    ReadAlike
      ((mapRequest allowed order).items >>= fun items =>
        readFields assign fields items >>= rest)
      ((mapRequest allowed pairs).items >>= fun items =>
        readFields assign fields items >>= rest) := by
  cases allowed with
  | false => exact .refl _
  | true => exact (alike_readFields hassign hrefuses hperm hdistinct fields).bind rest

theorem alike_attachFields (tmux : TmuxReplies) :
    ReadAlike (attachFields (mapRequest allowed order) tmux)
      (attachFields (mapRequest allowed pairs) tmux) :=
  alike_handler hperm hdistinct allowed AttachFields.independentKeys AttachFields.refusesWith400 _ _

theorem alike_createFields :
    ReadAlike (createFields (mapRequest allowed order)) (createFields (mapRequest allowed pairs)) :=
  alike_handler hperm hdistinct allowed CreateFields.independentKeys CreateFields.refusesWith400 _ _

theorem alike_resizeSize :
    ReadAlike (resizeSize (mapRequest allowed order)) (resizeSize (mapRequest allowed pairs)) :=
  alike_handler hperm hdistinct allowed ResizeFields.independentKeys ResizeFields.refusesWith400 _ _

end

namespace App

variable {request request' : CoapRequest}

/-- What tmux is asked depends on what is read only. -/
theorem attachCalls_congr {tmux : TmuxReplies}
    (h : ∀ tmux, ReadAlike (attachFields request tmux) (attachFields request' tmux)) :
    attachCalls request tmux = attachCalls request' tmux := by
  have hread := h { tmux with sessionExists := true }
  rw [attachCalls, attachCalls]
  generalize attachFields request { tmux with sessionExists := true } = read at hread ⊢
  generalize attachFields request' { tmux with sessionExists := true } = read' at hread ⊢
  cases hread <;> rfl

theorem serveAttach_congr (s : App) (ref : ConnectionRef) (tmux : TmuxReplies)
    (h : ∀ tmux, ReadAlike (attachFields request tmux) (attachFields request' tmux)) :
    s.serveAttach ref request tmux = s.serveAttach ref request' tmux := by
  have hread := h tmux
  rw [serveAttach, serveAttach, attachCalls_congr h, handleAttach, handleAttach]
  generalize attachFields request tmux = read at hread ⊢
  generalize attachFields request' tmux = read' at hread ⊢
  cases hread with
  | ok fields => rfl
  | error hcode => exact congrArg (App.answer _ .attach ref) hcode

theorem serveCreate_congr (s : App) (ref : ConnectionRef) (tmux : TmuxReplies)
    (h : ReadAlike (createFields request) (createFields request')) :
    s.serveCreate ref request tmux = s.serveCreate ref request' tmux := by
  rw [serveCreate, serveCreate]
  generalize createFields request = read at h ⊢
  generalize createFields request' = read' at h ⊢
  cases h with
  | ok fields => rfl
  | error hcode => exact congrArg (s.answer .create ref) hcode

theorem serveResize_congr (s : App) (ref : ConnectionRef)
    (h : ReadAlike (resizeSize request) (resizeSize request')) :
    s.serveResize ref request = s.serveResize ref request' := by
  rw [serveResize, serveResize]
  generalize resizeSize request = read at h ⊢
  generalize resizeSize request' = read' at h ⊢
  cases h with
  | ok size => rfl
  | error hcode => exact congrArg (s.answer .resize ref) hcode

end App

/-! ## The listing of the command line client -/

/-- Two elements of a listing that are the same, or one map whose names are distinct. -/
def SameElement (item item' : ListItem) : Prop :=
  item = item' ∨ ∃ order pairs : List (CborItem × CborItem), order.Perm pairs
    ∧ DistinctNames pairs ∧ item = .map (pairItems order) ∧ item' = .map (pairItems pairs)

/-- What a client takes of an entry is all that counts. -/
theorem readSessions_map {fields fields' : List CborItem} {items items' : List ListItem} {room : ℕ}
    (hread : ∀ info, readFields ClientSession.assign ClientSession.init fields = .ok info
      ↔ readFields ClientSession.assign ClientSession.init fields' = .ok info)
    (hrest : readSessions room items = readSessions room items') :
    readSessions (room + 1) (.map fields :: items)
      = readSessions (room + 1) (.map fields' :: items') := by
  rw [readSessions, readSessions, hrest]
  cases hfields : readFields ClientSession.assign ClientSession.init fields with
  | ok info => rw [(hread info).mp hfields]
  | error e =>
    cases hfields' : readFields ClientSession.assign ClientSession.init fields' with
    | ok info => cases hfields.symm.trans ((hread info).mpr hfields')
    | error e' => rfl

/-- The client reads such elements alike, those of a damaged listing as well. -/
theorem readSessions_congr {items items' : List ListItem}
    (h : List.Forall₂ SameElement items items') (room : ℕ) :
    readSessions room items = readSessions room items' := by
  induction h generalizing room with
  | nil => rfl
  | @cons item item' _ _ helement _ ih =>
    cases room with
    | zero => rfl
    | succ room =>
      obtain rfl | ⟨order, pairs, hperm, hdistinct, rfl, rfl⟩ := helement
      · cases item with
        | map fields => exact readSessions_map (fun _ => Iff.rfl) (ih room)
        | other => exact ih (room + 1)
        | malformed => rfl
      · have hread := readFields_perm ClientSession.independentKeys hperm hdistinct
        exact readSessions_map (hread ClientSession.init) (ih room)

/-! ## Any order -/

/-- **The order of a map's entries is of no concern**, as long as no two of its keys look the same:
the agent does with an attach, a create or a resize request exactly the same, up to the code that it
answers, and the command line client lists the same sessions. -/
theorem entries_any_order :
    (∀ pairs order : List (CborItem × CborItem), order.Perm pairs → DistinctNames pairs →
        ∀ (s : App) (ref : ConnectionRef) (allowed : Bool) (tmux : TmuxReplies),
          s.serveAttach ref (mapRequest allowed order) tmux
              = s.serveAttach ref (mapRequest allowed pairs) tmux
            ∧ s.serveCreate ref (mapRequest allowed order) tmux
              = s.serveCreate ref (mapRequest allowed pairs) tmux
            ∧ s.serveResize ref (mapRequest allowed order)
              = s.serveResize ref (mapRequest allowed pairs))
      ∧ ∀ items items' : List ListItem, List.Forall₂ SameElement items items' →
        ∀ room, readSessions room items = readSessions room items' := by
  refine ⟨fun pairs order hperm hdistinct s ref allowed tmux => ⟨?_, ?_, ?_⟩,
    fun _ _ h => readSessions_congr h⟩
  · exact s.serveAttach_congr ref tmux (alike_attachFields hperm hdistinct allowed)
  · exact s.serveCreate_congr ref tmux (alike_createFields hperm hdistinct allowed)
  · exact s.serveResize_congr ref (alike_resizeSize hperm hdistinct allowed)

/-- A session and its size, with a key that is no text and one that nobody knows. -/
def sessionPairs : List (CborItem × CborItem) :=
  [(.text (some (utf8 "session")), .text (some (utf8 "dev"))), (.unsigned 3, .boolean true),
    (.text (some (utf8 "cols")), .unsigned 80), (.text (some (utf8 "theme")), .other),
    (.text (some (utf8 "rows")), .unsigned 24)]

/-- The other way round they are attached to, created and resized to alike; and so are the sessions
of a listing that ends in something damaged. -/
theorem entries_any_order_reversed :
    App.init.serveAttach 7 (mapRequest true sessionPairs.reverse) sessionThere
        = App.init.serveAttach 7 (mapRequest true sessionPairs) sessionThere
      ∧ App.init.serveCreate 7 (mapRequest true sessionPairs.reverse) sessionThere
        = App.init.serveCreate 7 (mapRequest true sessionPairs) sessionThere
      ∧ App.init.serveResize 7 (mapRequest true sessionPairs.reverse)
        = App.init.serveResize 7 (mapRequest true sessionPairs)
      ∧ (App.init.serveAttach 7 (mapRequest true sessionPairs) sessionThere).log.head?
        = some (.answered .attach 7 201)
      ∧ readSessions 16 [.map (pairItems sessionPairs.reverse), .malformed]
        = readSessions 16 [.map (pairItems sessionPairs), .malformed] := by
  have hdistinct : DistinctNames sessionPairs := by decide +kernel
  obtain ⟨hattach, hcreate, hresize⟩ := entries_any_order.1 sessionPairs sessionPairs.reverse
    sessionPairs.reverse_perm hdistinct App.init 7 true sessionThere
  refine ⟨hattach, hcreate, hresize, by decide +kernel, entries_any_order.2 _ _ ?_ 16⟩
  exact .cons (.inr ⟨_, _, sessionPairs.reverse_perm, hdistinct, rfl, rfl⟩) (.cons (.inl rfl) .nil)

end TmuxRemote
