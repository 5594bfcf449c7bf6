import Gnash.Swf.Stream

/-!
# `PlaceObject2Tag`: decoding the place-object tags

The three place-object tags of the movie format are decoded by `PlaceObject2Tag::read` into the
fields of a `PlaceObject2Tag`: `readPlaceObject` for the original tag, `readPlaceObject2` for
`PLACEOBJECT2` and `PLACEOBJECT3`, which reads presence flags and then the fields they announce,
and `readPlaceActions` for the list of event records at the end of the tag. Each event record is
a flag word, a declared length, an optional key-code byte and an action block; the loop of
`readPlaceActions` checks the declared length against the tag end and the size of the action
block, allocates the block (`new action_buffer`), and turns every known bit of the flag word into
one `swf_event` pointing to it. A pointer to an action buffer is its index among the buffers the
tag's reader allocated (`PlaceObject2Tag.actionBuffers`), so that which buffer a handler holds,
and whether two handlers hold the same one, can be said.

The readers of the matrix, the colour transform, the filter list and the action block, and the
depth constants of `character`, are not among the sources: they are the fields of `Externals`.
The action-block reader comes with the one property the loop relies on (`ActionReader`): the
block it returns is the bytes it consumed, in the tag. The constructor of `swf_event` is modelled
from the specification: each registration points to the record's one action buffer.

The loop of `readPlaceActions` is `readEvents`, one pass of it `readEvent`, and the part of a pass
after the length guard `readEventBody`; each comes with one lemma saying everything a successful
run of it does (`readEvent_run_ok`, `readEventBody_run_ok`). The loop terminates because every
accepted record moves the stream forward, and not past the tag end
(`readEvent_accept_advances`).

## Main definitions

* `Gnash.Swf.PlaceObject2Tag`, `Gnash.Swf.Externals`, `Gnash.Swf.ActionReader`.
* `Gnash.Swf.readPlaceObject`, `Gnash.Swf.readPlaceFlags`, `Gnash.Swf.readPlaceObject2`,
  `Gnash.Swf.readPlaceActions`, `Gnash.Swf.read`.
* `Gnash.Swf.readEvent`, `Gnash.Swf.readEvents`, `Gnash.Swf.recordHandlers`.

## Main results

* `Gnash.Swf.readEvent_run_ok`, `Gnash.Swf.readEventBody_run_ok`: what one pass of the loop
  reads, and how it ends.

Source: `src/server/swf/PlaceObject2Tag.cpp`.
-/

namespace Gnash.Swf

/-! ### Events -/

/-- The event kinds of `event_id` that a place-object tag can name. -/
inductive EventKind
  | load | enterFrame | unload | mouseMove | mouseDown | mouseUp | keyDown | keyUp
  | data | initialise | press | release | releaseOutside | rollOver | rollOut | dragOver
  | dragOut | keyPress | construct
  deriving DecidableEq, Repr

/-- The key code of an `event_id`: `key::INVALID`, `key::CONTROL`, or a code byte read from
the tag. -/
inductive KeyCode
  | invalid
  | control
  | code (c : Nat)
  deriving DecidableEq, Repr

/-- An `event_id`: its kind and its key code. -/
structure EventId where
  id : EventKind
  keyCode : KeyCode := .invalid
  deriving DecidableEq, Repr

/-- `event_id::setKeyCode`, with the byte `ch` read for a key-press record (`none` when no key
byte was read and `ch` kept `key::INVALID`). -/
def EventId.setKeyCode (ev : EventId) (ch : Option Nat) : EventId :=
  { ev with keyCode := match ch with | some c => .code c | none => .invalid }

/-- `total_known_events`: 13 bits of the flag word are reserved, 19 used. -/
def totalKnownEvents : Nat := 19

/-- `s_code_bits`: the event of each known bit of a flag word. -/
def sCodeBits : List EventId :=
  [⟨.load, .invalid⟩, ⟨.enterFrame, .invalid⟩, ⟨.unload, .invalid⟩, ⟨.mouseMove, .invalid⟩,
   ⟨.mouseDown, .invalid⟩, ⟨.mouseUp, .invalid⟩, ⟨.keyDown, .invalid⟩, ⟨.keyUp, .invalid⟩,
   ⟨.data, .invalid⟩, ⟨.initialise, .invalid⟩, ⟨.press, .invalid⟩, ⟨.release, .invalid⟩,
   ⟨.releaseOutside, .invalid⟩, ⟨.rollOver, .invalid⟩, ⟨.rollOut, .invalid⟩,
   ⟨.dragOver, .invalid⟩, ⟨.dragOut, .invalid⟩, ⟨.keyPress, .control⟩, ⟨.construct, .invalid⟩]

@[simp] theorem length_sCodeBits : sCodeBits.length = totalKnownEvents := rfl

/-- An `action_buffer`: the bytes of an action block, uninterpreted. -/
structure ActionBuffer where
  bytes : List UInt8
  deriving DecidableEq, Repr

/-- `action_buffer::size`. -/
def ActionBuffer.size (a : ActionBuffer) : Nat := a.bytes.length

/-- An `swf_event`: an event and a pointer to the action buffer it runs, the index of the buffer
among those the tag's reader allocated. Modelled from the spec: the constructor of `swf_event` is
not among the sources, and every registration of a record points to that record's one buffer
(section 4.3, step 8). -/
structure SwfEvent where
  event : EventId
  actionBuffer : Nat
  deriving DecidableEq, Repr

/-- `flags & mask` for the mask `1 << i` of the loops over a flag word. -/
def hasEventBit (flags i : Nat) : Bool := flags &&& (1 <<< i) != 0

@[simp] theorem hasEventBit_eq_testBit (flags i : Nat) : hasEventBit flags i = flags.testBit i := by
  have key : ∀ j, (flags &&& 1 <<< i).testBit j = (flags.testBit j && decide (i = j)) := by
    intro j; rw [Nat.testBit_and, Nat.one_shiftLeft, Nat.testBit_two_pow]
  cases hb : flags.testBit i
  · have : flags &&& 1 <<< i = 0 := Nat.eq_of_testBit_eq fun j => by
      by_cases h : i = j <;> simp_all
    simp [hasEventBit, this]
  · have : flags &&& 1 <<< i ≠ 0 := fun h0 => by simpa [h0, hb] using key i
    simp [hasEventBit, this]

/-- The handlers one accepted record adds (the loop over `s_code_bits`): one `swf_event` for each
known bit set in `flags`, in increasing bit order, all pointing to the record's action buffer
`buffer`, the key-press one carrying the key byte `ch`. -/
def recordHandlers (flags : Nat) (ch : Option Nat) (buffer : Nat) : List SwfEvent :=
  sCodeBits.enum.filterMap fun (i, ev) =>
    if hasEventBit flags i then some ⟨if i = 17 then ev.setKeyCode ch else ev, buffer⟩ else none

/-! ### The readers outside the sources -/

/-- The reader of an action block (`action_buffer::read`, not among the sources), with what the
loop of `readPlaceActions` relies on: the block it returns is the bytes it consumed from the next
byte boundary on, which lie in the tag, and the movie and the tag end are left as they were. -/
structure ActionReader where
  read : Reader ActionBuffer
  read_ok : ∀ s a s', read.run s = .ok (a, s') →
    s'.data = s.data ∧ s'.tagEnd = s.tagEnd ∧ s'.position = s.position + a.size ∧
      a.bytes <+: s.data.drop s.position ∧ s.position + a.size ≤ s.tagEnd

/-- What `PlaceObject2Tag` uses from sources outside this development: the depth constants of
`character` and the readers of `matrix`, `cxform`, `filter_factory` and `action_buffer`. -/
structure Externals (Mtx Cxf : Type) where
  staticDepthOffset : Int
  noRatioValue : Int
  noClipDepthValue : Int
  matrixRead : Reader Mtx
  cxformReadRgb : Reader Cxf
  cxformReadRgba : Reader Cxf
  filtersRead : Int → Reader Unit
  actionRead : ActionReader

/-! ### The tag -/

/-- The tags `PlaceObject2Tag::loader` accepts (it asserts the tag is one of them). -/
inductive TagType
  | placeObject
  | placeObject2
  | placeObject3
  deriving DecidableEq, Repr

/-- `m_place_type`. -/
inductive PlaceType
  | place
  | move
  | replace
  | remove
  deriving DecidableEq, Repr

/-- The fields of a `PlaceObject2Tag` that its readers set. -/
structure PlaceObject2Tag (Mtx Cxf : Type) where
  tagType : TagType
  characterId : Nat
  depth : Int
  matrix : Mtx
  colorTransform : Cxf
  hasMatrix : Bool
  hasCxform : Bool
  ratio : Int
  name : Option (List UInt8)
  clipDepth : Int
  eventHandlers : List SwfEvent
  /-- The action buffers allocated for the event handlers, which point to them by index. -/
  actionBuffers : List ActionBuffer
  placeType : PlaceType
  allEventFlags : Nat

variable {Mtx Cxf : Type}

/-- `PlaceObject2Tag::readPlaceObject`: the original tag, a character id, a depth, a matrix, and
a colour transform when bytes are left before the tag end. -/
def readPlaceObject (ext : Externals Mtx Cxf) (tag : PlaceObject2Tag Mtx Cxf) :
    Reader (PlaceObject2Tag Mtx Cxf) := do
  let characterId ← readU16
  let depth ← readU16
  let matrix ← ext.matrixRead
  let tag := { tag with characterId, depth := depth + ext.staticDepthOffset, matrix }
  if (← getPosition) < (← getTagEndPosition) then
    let colorTransform ← ext.cxformReadRgb
    pure { tag with colorTransform }
  else
    pure tag

/-! ### The event loop -/

/-- `in->get_tag_end_position() - in->get_position()`, a difference of `unsigned long`s. -/
def ulongSub (a b : Nat) : Nat := (a + 2 ^ 64 - b % 2 ^ 64) % 2 ^ 64

/-- The flag word of an event record: 32 bits from movie version 6 on, 16 bits before. -/
def readFlagWord (movieVersion : Int) : Reader Nat :=
  if movieVersion ≥ 6 then readU32 else readU16

/-- The key-code byte of a record with the key-press bit (bit 17) set, and the declared length
left for the action block, decremented as the `uint32_t` it is. -/
def readKeyCode (flags eventLength : Nat) : Reader (Option Nat × Nat) :=
  if hasEventBit flags 17 then do
    let ch ← readU8
    pure (some ch, (eventLength + 2 ^ 32 - 1) % 2 ^ 32)
  else
    pure (none, eventLength)

/-- How one pass of the event loop ends: the zero flag word that closes the list, a record the
checks reject (both `break`), or an accepted record with its flag word, key byte and action
block. -/
inductive EventStep
  | endOfList
  | reject
  | accept (flags : Nat) (ch : Option Nat) (action : ActionBuffer)
  deriving DecidableEq, Repr

/-- What one pass of the loop does once a record has passed the length guard: the key byte, the
action block, and the checks of its size against the declared length. -/
def readEventBody (ar : ActionReader) (flags eventLength : Nat) : Reader EventStep := do
  let (ch, eventLength) ← readKeyCode flags eventLength
  let action ← ar.read
  let readlen := action.size
  if readlen > eventLength then pure .reject
  else if readlen < eventLength then do
    let ok ← skipBytes (eventLength - readlen)
    pure (if ok then .accept flags ch action else .reject)
  else pure (.accept flags ch action)

/-- One pass of the `for (;;)` loop of `readPlaceActions`, up to the handlers it adds. -/
def readEvent (ar : ActionReader) (movieVersion : Int) : Reader EventStep := do
  align
  let flags ← readFlagWord movieVersion
  if flags = 0 then pure .endOfList else do
  let eventLength ← readU32
  let room := ulongSub (← getTagEndPosition) (← getPosition)
  if room < eventLength then pure .reject else readEventBody ar flags eventLength

/-- The bytes of a flag word: 4 from movie version 6 on, 2 before. -/
def flagWidth (movieVersion : Int) : Nat := if movieVersion ≥ 6 then 4 else 2

theorem flagWidth_pos (movieVersion : Int) : 0 < flagWidth movieVersion := by
  unfold flagWidth; split <;> decide

theorem readFlagWord_eq (movieVersion : Int) :
    readFlagWord movieVersion = readLE (flagWidth movieVersion) := by
  unfold readFlagWord flagWidth; split <;> rfl

/-- The declared length left for the action block once the key byte of a key-press record is
taken off it. -/
def lengthAfterKey (flags eventLength : Nat) : Nat :=
  if flags.testBit 17 then (eventLength + 2 ^ 32 - 1) % 2 ^ 32 else eventLength

/-- The key byte, if any, is the byte the body starts at, and the action block follows it. -/
theorem readKeyCode_run_ok {flags L p : Nat} {s s' : Stream} {ch : Option Nat} {L' : Nat}
    (h : (readKeyCode flags L).run (s.seek p) = .ok ((ch, L'), s')) :
    L' = lengthAfterKey flags L ∧
      ch = (if flags.testBit 17 then some (s.data.getD p 0).toNat else none) ∧
      s' = s.seek (p + if flags.testBit 17 then 1 else 0) := by
  unfold readKeyCode at h
  rw [hasEventBit_eq_testBit] at h
  unfold lengthAfterKey
  split at h
  · next hb =>
    obtain ⟨c, s₁, h₁, h₂⟩ := run_bind_eq_ok h
    cases h₂
    obtain ⟨-, -, rfl, rfl⟩ := readU8_run_ok h₁
    simp [hb]
  · next hb =>
    cases h
    simp [hb]

/-- What the body of a pass does, started at byte `p` once the record has passed the length
guard: a key-press record's key byte is the byte at `p`, the action reader runs right after it,
inside the tag, and the record is either accepted, the stream moved to the end of the length left
for the block, or rejected, the block being longer than that length or the skip to its end
passing the tag end. -/
theorem readEventBody_run_ok {ar : ActionReader} {flags L p : Nat} {s s' : Stream}
    {step : EventStep} (h : (readEventBody ar flags L).run (s.seek p) = .ok (step, s')) :
    p + (if flags.testBit 17 then 1 else 0) ≤ s.tagEnd ∧
      ∃ action s₁, ar.read.run (s.seek (p + if flags.testBit 17 then 1 else 0)) = .ok (action, s₁) ∧
        (step = .accept flags (if flags.testBit 17 then some (s.data.getD p 0).toNat else none)
            action ∧ action.size ≤ lengthAfterKey flags L ∧
          p + (if flags.testBit 17 then 1 else 0) + lengthAfterKey flags L ≤ s.tagEnd ∧
          s'.data = s.data ∧ s'.tagEnd = s.tagEnd ∧
          s'.position = p + (if flags.testBit 17 then 1 else 0) + lengthAfterKey flags L ∨
        step = .reject ∧ (lengthAfterKey flags L < action.size ∨
          s.tagEnd < p + (if flags.testBit 17 then 1 else 0) + lengthAfterKey flags L)) := by
  obtain ⟨⟨ch, L'⟩, s₁, hk, h₁⟩ := run_bind_eq_ok h
  obtain ⟨rfl, rfl, rfl⟩ := readKeyCode_run_ok hk
  generalize (if flags.testBit 17 then 1 else 0) = k at *
  obtain ⟨a, s₂, ha, h₂⟩ := run_bind_eq_ok h₁
  obtain ⟨hd₂, ht₂, hp₂, -, hin⟩ := ar.read_ok _ _ _ ha
  simp only [Stream.position_seek, Stream.seek_data, Stream.seek_tagEnd] at hd₂ ht₂ hp₂ hin
  refine ⟨by omega, a, s₂, ha, ?_⟩
  dsimp only at h₂
  split at h₂
  · cases h₂
    exact .inr ⟨rfl, .inl ‹_›⟩
  split at h₂
  · obtain ⟨ok, s₃, hskip, h₃⟩ := run_bind_eq_ok h₂
    rw [skipBytes_run] at hskip
    split at hskip
    · cases hskip; cases h₃
      refine .inl ⟨rfl, by omega, by omega, ?_⟩
      simp only [Stream.seek_data, Stream.seek_tagEnd, Stream.position_seek]
      exact ⟨hd₂, ht₂, by omega⟩
    · cases hskip; cases h₃
      exact .inr ⟨rfl, .inr (by omega)⟩
  · cases h₂
    exact .inl ⟨rfl, by omega, by omega, hd₂, ht₂, by omega⟩

/-- What one pass of the loop reads up to the body of a record: the flag word is the bytes at the
position the pass starts from, before the tag end; a zero one closes the list; otherwise the
declared length follows it, also before the tag end, and the record is rejected by the length
guard or handed to the body right after the length. -/
theorem readEvent_run_ok {ar : ActionReader} {movieVersion : Int} {s s' : Stream}
    {step : EventStep} (h : (readEvent ar movieVersion).run s = .ok (step, s')) :
    s.position + flagWidth movieVersion ≤ s.tagEnd ∧
      s.position + flagWidth movieVersion ≤ s.data.length ∧
      (leAt s.data s.position (flagWidth movieVersion) = 0 ∧ step = .endOfList ∨
        leAt s.data s.position (flagWidth movieVersion) ≠ 0 ∧
        s.position + flagWidth movieVersion + 4 ≤ s.tagEnd ∧
        s.position + flagWidth movieVersion + 4 ≤ s.data.length ∧
        (ulongSub s.tagEnd (s.position + flagWidth movieVersion + 4) <
            leAt s.data (s.position + flagWidth movieVersion) 4 ∧ step = .reject ∨
          leAt s.data (s.position + flagWidth movieVersion) 4 ≤
            ulongSub s.tagEnd (s.position + flagWidth movieVersion + 4) ∧
          (readEventBody ar (leAt s.data s.position (flagWidth movieVersion))
              (leAt s.data (s.position + flagWidth movieVersion) 4)).run
            (s.seek (s.position + flagWidth movieVersion + 4)) = .ok (step, s'))) := by
  obtain ⟨_, s₀, h₀, h₁⟩ := run_bind_eq_ok h
  cases h₀
  obtain ⟨f, s₁, hf, h₂⟩ := run_bind_eq_ok h₁
  rw [readFlagWord_eq] at hf
  obtain ⟨hbf, rfl, rfl⟩ := readLE_run_ok hf
  simp only [Stream.position_seek, Stream.seek_data, Stream.seek_tagEnd] at hbf h₂ ⊢
  obtain ⟨hft, hfl⟩ := hbf (flagWidth_pos movieVersion)
  refine ⟨hft, hfl, ?_⟩
  split at h₂
  · cases h₂
    exact .inl ⟨‹_›, rfl⟩
  next hflags =>
  obtain ⟨L, s₂, hL, h₃⟩ := run_bind_eq_ok h₂
  obtain ⟨hbL, rfl, rfl⟩ := readLE_run_ok hL
  obtain ⟨hLt, hLl⟩ := hbL (by decide)
  simp only [Stream.position_seek, Stream.seek_data, Stream.seek_tagEnd, Stream.seek_seek] at hLt hLl h₃
  refine .inr ⟨hflags, hLt, hLl, ?_⟩
  obtain ⟨te, s₃, hte, h₄⟩ := run_bind_eq_ok h₃
  cases hte
  obtain ⟨pos, s₄, hpos, h₅⟩ := run_bind_eq_ok h₄
  cases hpos
  simp only [Stream.position_seek, Stream.seek_tagEnd] at h₅
  split at h₅
  · cases h₅
    exact .inl ⟨‹_›, rfl⟩
  · exact .inr ⟨by omega, h₅⟩

/-- An accepted record moves the stream forward, and not past the tag end. -/
theorem readEvent_accept_advances {ar : ActionReader} {movieVersion : Int} {s s' : Stream}
    {flags : Nat} {ch : Option Nat} {action : ActionBuffer}
    (h : (readEvent ar movieVersion).run s = .ok (.accept flags ch action, s')) :
    s'.data = s.data ∧ s'.tagEnd = s.tagEnd ∧ s.position < s'.position ∧ s'.position ≤ s.tagEnd := by
  obtain ⟨-, -, ⟨-, h⟩ | ⟨-, -, -, ⟨-, h⟩ | ⟨-, hbody⟩⟩⟩ := readEvent_run_ok h
  · cases h
  · cases h
  obtain ⟨-, a, s₁, -, ⟨-, -, hle, hd, ht, hp⟩ | ⟨h, -⟩⟩ := readEventBody_run_ok hbody
  · exact ⟨hd, ht, by omega, by omega⟩
  · cases h

/-! ### The loop and the readers of the extended tags -/

/-- The `for (;;)` loop of `readPlaceActions`: records are read until the zero flag word or a
rejected record; every accepted record's action block is allocated after the `buffers` already
there, and handlers pointing to it are appended to `handlers`. -/
def readEvents (ar : ActionReader) (movieVersion : Int) (handlers : List SwfEvent)
    (buffers : List ActionBuffer) (s : Stream) :
    Except ParseError ((List SwfEvent × List ActionBuffer) × Stream) :=
  match h : (readEvent ar movieVersion).run s with
  | .error e => .error e
  | .ok (.accept flags ch action, s') =>
    readEvents ar movieVersion (handlers ++ recordHandlers flags ch buffers.length)
      (buffers ++ [action]) s'
  | .ok (_, s') => .ok ((handlers, buffers), s')
termination_by s.tagEnd + 1 - s.position
decreasing_by
  obtain ⟨-, ht, hlt, hle⟩ := readEvent_accept_advances h
  rw [ht]; omega

section ReadEvents

variable {ar : ActionReader} {movieVersion : Int} {handlers : List SwfEvent}
  {buffers : List ActionBuffer} {s s' : Stream}

theorem readEvents_of_accept {flags : Nat} {ch : Option Nat} {action : ActionBuffer}
    (h : (readEvent ar movieVersion).run s = .ok (.accept flags ch action, s')) :
    readEvents ar movieVersion handlers buffers s =
      readEvents ar movieVersion (handlers ++ recordHandlers flags ch buffers.length)
        (buffers ++ [action]) s' := by
  rw [readEvents]; split <;> simp_all

theorem readEvents_of_stop {step : EventStep} (hstep : ∀ flags ch action, step ≠ .accept flags ch action)
    (h : (readEvent ar movieVersion).run s = .ok (step, s')) :
    readEvents ar movieVersion handlers buffers s = .ok ((handlers, buffers), s') := by
  rw [readEvents]; split
  · simp_all
  · next hr => rw [h] at hr; cases hr; exact absurd rfl (hstep _ _ _)
  · simp_all

theorem readEvents_of_error {e : ParseError} (h : (readEvent ar movieVersion).run s = .error e) :
    readEvents ar movieVersion handlers buffers s = .error e := by
  rw [readEvents]; split <;> simp_all

end ReadEvents

/-- `PlaceObject2Tag::readPlaceActions`: a reserved half-word, the union of all event flags, and
the event records. -/
def readPlaceActions (ext : Externals Mtx Cxf) (tag : PlaceObject2Tag Mtx Cxf)
    (movieVersion : Int) : Reader (PlaceObject2Tag Mtx Cxf) := do
  let _reserved ← readU16
  let allEventFlags ← readFlagWord movieVersion
  let (eventHandlers, actionBuffers) ←
    (readEvents ext.actionRead movieVersion tag.eventHandlers tag.actionBuffers : Reader _)
  pure { tag with allEventFlags, eventHandlers, actionBuffers }

/-- The presence flags at the head of a `PLACEOBJECT2` or `PLACEOBJECT3` record. -/
structure PlaceFlags where
  hasActions : Bool
  hasClipBracket : Bool
  hasName : Bool
  hasRatio : Bool
  hasCxform : Bool
  hasMatrix : Bool
  hasChar : Bool
  flagMove : Bool
  hasBitmapCaching : Bool := false
  hasBlendMode : Bool := false
  hasFilters : Bool := false
  deriving DecidableEq, Repr

/-- The flag bits `readPlaceObject2` reads first: eight, and for `PLACEOBJECT3` from movie
version 8 on five ignored bits and three more. -/
def readPlaceFlags (movieVersion : Int) (place2 : Bool) : Reader PlaceFlags := do
  align
  let hasActions ← readBit
  let hasClipBracket ← readBit
  let hasName ← readBit
  let hasRatio ← readBit
  let hasCxform ← readBit
  let hasMatrix ← readBit
  let hasChar ← readBit
  let flagMove ← readBit
  let flags : PlaceFlags :=
    { hasActions, hasClipBracket, hasName, hasRatio, hasCxform, hasMatrix, hasChar, flagMove }
  if !place2 && movieVersion ≥ 8 then
    let _ ← readUInt 5
    let hasBitmapCaching ← readBit
    let hasBlendMode ← readBit
    let hasFilters ← readBit
    pure { flags with hasBitmapCaching, hasBlendMode, hasFilters }
  else
    pure flags

/-- The chain of tests that sets `m_place_type` from `has_char` and `flag_move`. -/
def placeTypeOf (hasChar flagMove : Bool) (old : PlaceType) : PlaceType :=
  if hasChar = true ∧ flagMove = true then .replace
  else if hasChar = false ∧ flagMove = true then .move
  else if hasChar = true ∧ flagMove = false then .place
  else if hasChar = false ∧ flagMove = false then .remove
  else old

/-- The chain of tests is exhaustive: the place type is the table of the format, whatever it was
before. -/
@[simp] theorem placeTypeOf_eq (hasChar flagMove : Bool) (old : PlaceType) :
    placeTypeOf hasChar flagMove old =
      match hasChar, flagMove with
      | true, false => .place
      | true, true => .replace
      | false, true => .move
      | false, false => .remove := by
  cases hasChar <;> cases flagMove <;> rfl

/-- `PlaceObject2Tag::readPlaceObject2`: the flags, then each field they announce, in the order of
the format. The filter list, blend mode and bitmap-caching byte are read and dropped. -/
def readPlaceObject2 (ext : Externals Mtx Cxf) (tag : PlaceObject2Tag Mtx Cxf)
    (movieVersion : Int) (place2 : Bool) : Reader (PlaceObject2Tag Mtx Cxf) := do
  let f ← readPlaceFlags movieVersion place2
  let depth ← readU16
  let tag := { tag with depth := depth + ext.staticDepthOffset }
  let tag ← if f.hasChar then do pure { tag with characterId := ← readU16 } else pure tag
  let tag ← if f.hasMatrix then do pure { tag with hasMatrix := true, matrix := ← ext.matrixRead }
    else pure tag
  let tag ← if f.hasCxform then do
      pure { tag with hasCxform := true, colorTransform := ← ext.cxformReadRgba }
    else pure tag
  let tag ← if f.hasRatio then do pure { tag with ratio := ← readU16 }
    else pure { tag with ratio := ext.noRatioValue }
  let tag ← if f.hasName then do pure { tag with name := some (← readString) } else pure tag
  let tag ← if f.hasClipBracket then do
      pure { tag with clipDepth := (← readU16) + ext.staticDepthOffset }
    else pure { tag with clipDepth := ext.noClipDepthValue }
  if f.hasFilters then ext.filtersRead movieVersion
  if f.hasBlendMode then discard readU8
  if f.hasBitmapCaching then discard readU8
  let tag ← if f.hasActions then readPlaceActions ext tag movieVersion else pure tag
  pure { tag with placeType := placeTypeOf f.hasChar f.flagMove tag.placeType }

/-- `PlaceObject2Tag::read`: the original tag by `readPlaceObject`, the two others by
`readPlaceObject2`, with `place_2` false for `PLACEOBJECT3` only. -/
def read (ext : Externals Mtx Cxf) (tag : PlaceObject2Tag Mtx Cxf) (tagType : TagType)
    (movieVersion : Int) : Reader (PlaceObject2Tag Mtx Cxf) :=
  let tag := { tag with tagType }
  if tagType = .placeObject then readPlaceObject ext tag
  else readPlaceObject2 ext tag movieVersion (if tagType = .placeObject3 then false else true)

end Gnash.Swf
