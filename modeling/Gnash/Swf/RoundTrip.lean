import Gnash.Swf.EventHandlers

/-!
# Reading a place-object record back from its encoding

The format lays a place-object record out field by field, and `PlaceObject2Tag::read` reads the
fields back in that order. This module gives each kind of record as a structure whose fields
carry what the format asks of them (a depth below `2 ^ 16`, a name without a zero byte, a nonzero
flag word for each event record, ...), its encoding, and what the reader stores from it, and
proves that the reader reads every such record back from its encoding:

* an event record is accepted by one pass of the loop and read to its end, and an encoded event
  list is read record after record up to its zero flag word (`readEvents_parses`);
* the presence flags are read back bit by bit (`readPlaceFlags_parses`);
* a `PLACEOBJECT2` or `PLACEOBJECT3` record is read back field by field, in the order of the
  format (`readPlaceObject2_parses`);
* an original `PLACEOBJECT` record is read back when it runs exactly to the tag end, the only
  way the reader can tell whether a colour transform follows the matrix
  (`readPlaceObject_parses`).

The readers outside the sources enter through `Encoded`: a matrix, colour transform, filter list
or action block of a record is a value together with bytes its reader reads it back from.

## Main definitions

* `Gnash.Swf.EventRecord`, `Gnash.Swf.EventList`, `Gnash.Swf.PlaceObject2Record`,
  `Gnash.Swf.PlaceObjectRecord`, with their `encode` and `decode`.

## Main results

* `Gnash.Swf.read_decodes`: `PlaceObject2Tag::read` reads back every record of the three tags.
* `Gnash.Swf.readPlaceObject_keeps_flags`: the original tag does not record which optional
  fields it read.

Source: `src/server/swf/PlaceObject2Tag.cpp`, lines 37-348.
-/

namespace Gnash.Swf

variable {Mtx Cxf : Type}

/-! ### Event records -/

/-- An event record as the format lays it out: a nonzero flag word of the movie's width, a
key-code byte exactly when bit 17 (key press) is set, and an action block that the action reader
reads back. Its declared length covers the key byte and the action block. -/
structure EventRecord (ar : ActionReader) (movieVersion : Int) where
  flags : Nat
  keyCode : Nat
  action : ActionBuffer
  flags_ne_zero : flags ≠ 0
  flags_lt : flags < 256 ^ flagWidth movieVersion
  keyCode_lt : keyCode < 256
  size_lt : action.size + 1 < 2 ^ 32
  parses : Parses ar.read action.bytes action

namespace EventRecord

variable {ar : ActionReader} {movieVersion : Int} (e : EventRecord ar movieVersion)

/-- The key byte of a key-press record. -/
def key : Option Nat := if e.flags.testBit 17 then some e.keyCode else none

/-- The bytes of the key byte, if any. -/
def keyBytes : List UInt8 := if e.flags.testBit 17 then [UInt8.ofNat e.keyCode] else []

/-- The declared length: the key byte and the action block. -/
def length : Nat := e.keyBytes.length + e.action.size

/-- The bytes of the record. -/
def encode : List UInt8 :=
  encodeLE (flagWidth movieVersion) e.flags ++ (encodeLE 4 e.length ++ (e.keyBytes ++ e.action.bytes))

/-- The handlers the record stands for, its action buffer being the one at index `buffer`: those
of section 4.3, step 8. -/
def handlers (buffer : Nat) : List SwfEvent := stepEightHandlers e.flags e.keyCode buffer

theorem length_lt : e.length < 2 ^ 32 := by
  have := e.size_lt
  unfold length keyBytes; split <;> simp <;> omega

theorem readKeyCode_parses :
    Parses (readKeyCode e.flags e.length) e.keyBytes (e.key, e.action.size) := by
  have hsize := e.size_lt
  unfold readKeyCode key keyBytes length keyBytes
  rw [hasEventBit_eq_testBit]
  cases e.flags.testBit 17
  · exact (Parses.pure _).congr_value (by simp)
  · have h := (readU8_parses (UInt8.ofNat e.keyCode)).bind_pure
      (f := fun ch => (some ch, (1 + e.action.size + 2 ^ 32 - 1) % 2 ^ 32))
    refine h.congr_value ?_
    simp only [UInt8.toNat_ofNat_of_lt e.keyCode_lt, Prod.mk.injEq, ↓reduceIte, true_and]
    omega

theorem readEventBody_parses :
    Parses (readEventBody ar e.flags e.length) (e.keyBytes ++ e.action.bytes)
      (.accept e.flags e.key e.action) := by
  unfold readEventBody
  rw [← List.append_nil e.action.bytes]
  refine e.readKeyCode_parses.bind (e.parses.bind ?_)
  simp only [gt_iff_lt, lt_irrefl, if_false]
  exact Parses.pure _

/-- An encoded record is accepted, and read to its end. -/
theorem readEvent_parses :
    Parses (readEvent ar movieVersion) e.encode (.accept e.flags e.key e.action) := by
  unfold readEvent
  rw [readFlagWord_eq]
  refine Parses.congr_bytes (align_parses.bind ((readLE_parses _ _ e.flags_lt).bind ?_))
    (List.nil_append _)
  rw [if_neg e.flags_ne_zero]
  refine (readLE_parses 4 _ e.length_lt).bind ?_
  intro s hs
  obtain ⟨s', h, hd, ht, hp⟩ := e.readEventBody_parses s hs
  have hroom : ¬ ulongSub s.tagEnd s.position < e.length := by
    obtain ⟨-, hend, hlt⟩ := hs
    have hlen : e.length = (e.keyBytes ++ e.action.bytes).length := by
      simp [length, ActionBuffer.size]
    rw [ulongSub_of_le (by omega) hlt]
    omega
  refine ⟨s', ?_, hd, ht, hp⟩
  rw [run_bind_ok (getTagEndPosition_run s), run_bind_ok (getPosition_run s)]
  dsimp only
  rw [if_neg hroom]
  exact h

end EventRecord

section Loop

variable {ar : ActionReader} {movieVersion : Int}

/-- The zero flag word that closes an event list is read as its end. -/
theorem readEvent_parses_end :
    Parses (readEvent ar movieVersion) (encodeLE (flagWidth movieVersion) 0) .endOfList := by
  unfold readEvent
  rw [readFlagWord_eq]
  exact Parses.congr_bytes (align_parses.bind
    ((readLE_parses _ 0 (Nat.pos_pow_of_pos _ (by decide))).bind (Parses.pure _))) (by simp)

/-- The bytes of a list of event records, closed by a zero flag word. -/
def encodeEvents (records : List (EventRecord ar movieVersion)) : List UInt8 :=
  records.flatMap EventRecord.encode ++ encodeLE (flagWidth movieVersion) 0

/-- The handlers of the records `rs`, the first record's pointing to buffer `buffer` and each next
record's to the buffer after it. -/
def recordsHandlers : Nat → List (EventRecord ar movieVersion) → List SwfEvent
  | _, [] => []
  | buffer, e :: rs => e.handlers buffer ++ recordsHandlers (buffer + 1) rs

/-- The loop reads every record of an encoded list and stops at the zero flag word after them,
each record adding its action block after `buffers` and its handlers, pointing to it, after
`handlers`. -/
theorem readEvents_parses (records : List (EventRecord ar movieVersion))
    (handlers : List SwfEvent) (buffers : List ActionBuffer) :
    Parses (readEvents ar movieVersion handlers buffers : Reader _) (encodeEvents records)
      ((handlers ++ recordsHandlers buffers.length records,
        buffers ++ records.map EventRecord.action)) := by
  induction records generalizing handlers buffers with
  | nil =>
    intro s hs
    obtain ⟨s', h, hd, ht, hp⟩ := readEvent_parses_end s hs
    exact ⟨s', by simpa [recordsHandlers] using readEvents_of_stop (by simp) h, hd, ht, hp⟩
  | cons e rs ih =>
    intro s hs
    rw [encodeEvents, List.flatMap_cons, List.append_assoc] at hs
    obtain ⟨s₁, h₁, hd₁, ht₁, hp₁⟩ := e.readEvent_parses s hs.left
    obtain ⟨s', h, hd, ht, hp⟩ :=
      ih (handlers ++ e.handlers buffers.length) (buffers ++ [e.action]) s₁ (hs.right hd₁ ht₁ hp₁)
    refine ⟨s', ?_, hd.trans hd₁, ht.trans ht₁, ?_⟩
    · show readEvents ar movieVersion handlers buffers s = _
      rw [readEvents_of_accept h₁, EventRecord.key, recordHandlers_eq_stepEightHandlers]
      simpa [recordsHandlers, EventRecord.handlers, List.append_assoc] using h
    · rw [hp, hp₁]
      simp [encodeEvents, Nat.add_assoc]

end Loop

/-! ### Event lists -/

/-- The event list of a record: a reserved half-word, the union of the event flags, and the
records, closed by a zero flag word. -/
structure EventList (ar : ActionReader) (movieVersion : Int) where
  reserved : Nat
  allEventFlags : Nat
  records : List (EventRecord ar movieVersion)
  reserved_lt : reserved < 2 ^ 16
  allEventFlags_lt : allEventFlags < 256 ^ flagWidth movieVersion

namespace EventList

variable {ar : ActionReader} {movieVersion : Int} (l : EventList ar movieVersion)

/-- The bytes of the event list. -/
def encode : List UInt8 :=
  encodeLE 2 l.reserved ++ (encodeLE (flagWidth movieVersion) l.allEventFlags ++
    encodeEvents l.records)

/-- The handlers of all the records, in order, the first record's pointing to buffer `buffer`. -/
def handlers (buffer : Nat) : List SwfEvent := recordsHandlers buffer l.records

/-- The action blocks of all the records, in order. -/
def buffers : List ActionBuffer := l.records.map EventRecord.action

end EventList

theorem readPlaceActions_parses (ext : Externals Mtx Cxf) (tag : PlaceObject2Tag Mtx Cxf)
    {movieVersion : Int} (l : EventList ext.actionRead movieVersion) :
    Parses (readPlaceActions ext tag movieVersion) l.encode
      { tag with
        allEventFlags := l.allEventFlags
        eventHandlers := tag.eventHandlers ++ l.handlers tag.actionBuffers.length
        actionBuffers := tag.actionBuffers ++ l.buffers } := by
  unfold readPlaceActions
  rw [readFlagWord_eq, EventList.encode, ← List.append_nil (encodeEvents l.records)]
  exact (readLE_parses 2 _ l.reserved_lt).bind ((readLE_parses _ _ l.allEventFlags_lt).bind
    ((readEvents_parses _ _ _).bind (Parses.pure _)))

/-! ### Presence flags -/

/-- The byte of eight flag bits, the first one the most significant. -/
def flagByte (bits : List Bool) : UInt8 := UInt8.ofNat (bitsValue bits)

theorem byteBits_flagByte : ∀ a b c d e f g h : Bool,
    byteBits (flagByte [a, b, c, d, e, f, g, h]) = [a, b, c, d, e, f, g, h] :=
  fun _ _ _ _ _ _ _ _ => byteBits_ofNat_bitsValue _ rfl

/-- The flag bits of a `PLACEOBJECT2` or `PLACEOBJECT3` record: eight flags, and where the format
has them five reserved zero bits and three more flags. -/
def PlaceFlags.bits (f : PlaceFlags) (extended : Bool) : List Bool :=
  [f.hasActions, f.hasClipBracket, f.hasName, f.hasRatio, f.hasCxform, f.hasMatrix, f.hasChar,
      f.flagMove] ++
    if extended then
      [false, false, false, false, false, f.hasBitmapCaching, f.hasBlendMode, f.hasFilters]
    else []

/-- The bytes of `PlaceFlags.bits`. -/
def PlaceFlags.encode (f : PlaceFlags) (extended : Bool) : List UInt8 :=
  flagByte [f.hasActions, f.hasClipBracket, f.hasName, f.hasRatio, f.hasCxform, f.hasMatrix,
      f.hasChar, f.flagMove] ::
    if extended then
      [flagByte [false, false, false, false, false, f.hasBitmapCaching, f.hasBlendMode,
        f.hasFilters]]
    else []

theorem bytesBits_encode (f : PlaceFlags) (extended : Bool) :
    bytesBits (f.encode extended) = f.bits extended := by
  cases extended <;> simp [PlaceFlags.encode, PlaceFlags.bits, bytesBits, byteBits_flagByte]

theorem readPlaceFlags_parses (movieVersion : Int) (place2 : Bool) (f : PlaceFlags)
    (hf : (!place2 && decide (movieVersion ≥ 8)) = false →
      f.hasBitmapCaching = false ∧ f.hasBlendMode = false ∧ f.hasFilters = false) :
    Parses (readPlaceFlags movieVersion place2)
      (f.encode (!place2 && decide (movieVersion ≥ 8))) f := by
  refine Parses.align_bind ?_
  rw [bytesBits_encode]
  obtain ⟨a₁, a₂, a₃, a₄, a₅, a₆, a₇, a₈, c₁, c₂, c₃⟩ := f
  cases hext : (!place2 && decide (movieVersion ≥ 8))
  · obtain ⟨rfl, rfl, rfl⟩ := hf hext
    show BitParses _ ([a₁] ++ ([a₂] ++ ([a₃] ++ ([a₄] ++ ([a₅] ++ ([a₆] ++ ([a₇] ++ ([a₈] ++
      [])))))))) _
    simp only [hext]
    exact (readBit_bitParses a₁).bind <| (readBit_bitParses a₂).bind <|
      (readBit_bitParses a₃).bind <| (readBit_bitParses a₄).bind <| (readBit_bitParses a₅).bind <|
      (readBit_bitParses a₆).bind <| (readBit_bitParses a₇).bind <| (readBit_bitParses a₈).bind <|
      BitParses.pure _
  · show BitParses _ ([a₁] ++ ([a₂] ++ ([a₃] ++ ([a₄] ++ ([a₅] ++ ([a₆] ++ ([a₇] ++ ([a₈] ++
      ([false, false, false, false, false] ++ ([c₁] ++ ([c₂] ++ ([c₃] ++ [])))))))))))) _
    simp only [hext]
    exact (readBit_bitParses a₁).bind <| (readBit_bitParses a₂).bind <|
      (readBit_bitParses a₃).bind <| (readBit_bitParses a₄).bind <| (readBit_bitParses a₅).bind <|
      (readBit_bitParses a₆).bind <| (readBit_bitParses a₇).bind <| (readBit_bitParses a₈).bind <|
      (readUInt_bitParses [false, false, false, false, false]).bind <|
      (readBit_bitParses c₁).bind <| (readBit_bitParses c₂).bind <| (readBit_bitParses c₃).bind <|
      BitParses.pure _

/-! ### Records -/

/-- A `PLACEOBJECT2` or `PLACEOBJECT3` record: a depth, the optional fields the flags announce,
and the move flag. `extended` says whether the tag has the second flag byte; without it the
filter list, blend mode and bitmap-caching byte cannot be present. -/
structure PlaceObject2Record (ext : Externals Mtx Cxf) (movieVersion : Int) (extended : Bool) where
  depth : Nat
  characterId : Option Nat
  matrix : Option (Encoded ext.matrixRead)
  cxform : Option (Encoded ext.cxformReadRgba)
  ratio : Option Nat
  name : Option (List UInt8)
  clipDepth : Option Nat
  filters : Option (Encoded (ext.filtersRead movieVersion))
  blendMode : Option Nat
  bitmapCaching : Option Nat
  events : Option (EventList ext.actionRead movieVersion)
  flagMove : Bool
  depth_lt : depth < 2 ^ 16
  characterId_lt : ∀ c ∈ characterId, c < 2 ^ 16
  ratio_lt : ∀ r ∈ ratio, r < 2 ^ 16
  name_ne_zero : ∀ str ∈ name, ∀ b ∈ str, b ≠ 0
  clipDepth_lt : ∀ d ∈ clipDepth, d < 2 ^ 16
  extended_fields : extended = false →
    filters = none ∧ blendMode = none ∧ bitmapCaching = none

namespace PlaceObject2Record

variable {ext : Externals Mtx Cxf} {movieVersion : Int} {extended : Bool}
  (r : PlaceObject2Record ext movieVersion extended)

/-- The presence flags of the record. -/
def flags : PlaceFlags where
  hasActions := r.events.isSome
  hasClipBracket := r.clipDepth.isSome
  hasName := r.name.isSome
  hasRatio := r.ratio.isSome
  hasCxform := r.cxform.isSome
  hasMatrix := r.matrix.isSome
  hasChar := r.characterId.isSome
  flagMove := r.flagMove
  hasBitmapCaching := r.bitmapCaching.isSome
  hasBlendMode := r.blendMode.isSome
  hasFilters := r.filters.isSome

/-- The bytes of the record, in the order of the format. -/
def encode : List UInt8 :=
  r.flags.encode extended ++ (encodeLE 2 r.depth ++ (r.characterId.elim [] (encodeLE 2) ++
    (r.matrix.elim [] Encoded.bytes ++ (r.cxform.elim [] Encoded.bytes ++
    (r.ratio.elim [] (encodeLE 2) ++ (r.name.elim [] (· ++ [0]) ++
    (r.clipDepth.elim [] (encodeLE 2) ++ (r.filters.elim [] Encoded.bytes ++
    (r.blendMode.elim [] (fun b => [UInt8.ofNat b]) ++
    (r.bitmapCaching.elim [] (fun b => [UInt8.ofNat b]) ++ r.events.elim [] EventList.encode))))))))))

/-- What the record sets in `tag`: every encoded field, the ratio and clip depth or their
defaults, the action blocks of the event list after the buffers `tag` had and their handlers
after the ones it had, and the place type by the table of the format (section 3 of the
specification). -/
def decode (tag : PlaceObject2Tag Mtx Cxf) : PlaceObject2Tag Mtx Cxf :=
  { tag with
    depth := r.depth + ext.staticDepthOffset
    characterId := r.characterId.getD tag.characterId
    hasMatrix := r.matrix.isSome || tag.hasMatrix
    matrix := (r.matrix.map Encoded.value).getD tag.matrix
    hasCxform := r.cxform.isSome || tag.hasCxform
    colorTransform := (r.cxform.map Encoded.value).getD tag.colorTransform
    ratio := (r.ratio.map fun n : Nat => (n : Int)).getD ext.noRatioValue
    name := (r.name.map some).getD tag.name
    clipDepth := (r.clipDepth.map fun d : Nat => d + ext.staticDepthOffset).getD ext.noClipDepthValue
    eventHandlers :=
      tag.eventHandlers ++ (r.events.map fun l => EventList.handlers l tag.actionBuffers.length).getD []
    actionBuffers := tag.actionBuffers ++ (r.events.map EventList.buffers).getD []
    allEventFlags := (r.events.map EventList.allEventFlags).getD tag.allEventFlags
    placeType :=
      match r.characterId.isSome, r.flagMove with
      | true, false => .place
      | true, true => .replace
      | false, true => .move
      | false, false => .remove }

end PlaceObject2Record

theorem readPlaceObject2_parses (ext : Externals Mtx Cxf) (tag : PlaceObject2Tag Mtx Cxf)
    (movieVersion : Int) (place2 : Bool)
    (r : PlaceObject2Record ext movieVersion (!place2 && decide (movieVersion ≥ 8))) :
    Parses (readPlaceObject2 ext tag movieVersion place2) r.encode (r.decode tag) := by
  have hflags := readPlaceFlags_parses movieVersion place2 r.flags fun h => by
    obtain ⟨h₁, h₂, h₃⟩ := r.extended_fields h
    simp [PlaceObject2Record.flags, h₁, h₂, h₃]
  -- the tag after each field the record may carry
  let t₁ : PlaceObject2Tag Mtx Cxf := { tag with
    depth := r.depth + ext.staticDepthOffset
    characterId := r.characterId.getD tag.characterId }
  let t₂ := { t₁ with
    hasMatrix := r.matrix.isSome || tag.hasMatrix
    matrix := (r.matrix.map Encoded.value).getD tag.matrix }
  let t₃ := { t₂ with
    hasCxform := r.cxform.isSome || tag.hasCxform
    colorTransform := (r.cxform.map Encoded.value).getD tag.colorTransform }
  let t₄ := { t₃ with ratio := (r.ratio.map fun n : Nat => (n : Int)).getD ext.noRatioValue }
  let t₅ := { t₄ with name := (r.name.map some).getD tag.name }
  let t₆ := { t₅ with
    clipDepth := (r.clipDepth.map fun d : Nat => d + ext.staticDepthOffset).getD ext.noClipDepthValue }
  let t₇ := { t₆ with
    allEventFlags := (r.events.map EventList.allEventFlags).getD tag.allEventFlags
    eventHandlers :=
      tag.eventHandlers ++ (r.events.map fun l => EventList.handlers l tag.actionBuffers.length).getD []
    actionBuffers := tag.actionBuffers ++ (r.events.map EventList.buffers).getD [] }
  unfold readPlaceObject2 PlaceObject2Record.encode
  rw [← List.append_nil (r.events.elim [] EventList.encode)]
  refine hflags.bind <| (readLE_parses 2 r.depth r.depth_lt).bind <|
    Parses.ite_field (g := id) (v := t₁)
      (fun c hc => ⟨readLE_parses 2 c (r.characterId_lt c hc), by simp [t₁, hc]⟩)
      (fun hc => by simp [t₁, hc]) <|
    Parses.ite_field (g := Encoded.value) (v := t₂)
      (fun c hc => ⟨c.parses, by simp [t₂, hc]⟩) (fun hc => by simp [t₂, hc]) <|
    Parses.ite_field (g := Encoded.value) (v := t₃)
      (fun c hc => ⟨c.parses, by simp [t₃, hc]⟩) (fun hc => by simp [t₃, hc]) <|
    Parses.ite_field (g := id) (v := t₄)
      (fun c hc => ⟨readLE_parses 2 c (r.ratio_lt c hc), by simp [t₄, hc]⟩)
      (fun hc => by simp [t₄, hc]) <|
    Parses.ite_field (g := id) (v := t₅)
      (fun c hc => ⟨readString_parses c (r.name_ne_zero c hc), by simp [t₅, hc]⟩)
      (fun hc => by simp [t₅, hc]) <|
    Parses.ite_field (g := id) (v := t₆)
      (fun c hc => ⟨readLE_parses 2 c (r.clipDepth_lt c hc), by simp [t₆, hc]⟩)
      (fun hc => by simp [t₆, hc]) <|
    Parses.ite_bind (fun c _ => c.parses) (fun _ => rfl) <|
    Parses.ite_bind (fun c _ => discard_readU8_parses _) (fun _ => rfl) <|
    Parses.ite_bind (fun c _ => discard_readU8_parses _) (fun _ => rfl) <|
    Parses.ite_bind (v := t₇)
      (fun l hl => (readPlaceActions_parses ext t₆ l).congr_value (by simp [t₇, hl]))
      (fun hl => by simp [t₇, hl]) <|
    (Parses.pure _).congr_value (by rw [placeTypeOf_eq]; rfl)

/-- A `PLACEOBJECT` record: a character id, a depth, a matrix, and an RGB colour transform when
the tag has bytes left after the matrix. An encoded colour transform is never empty. -/
structure PlaceObjectRecord (ext : Externals Mtx Cxf) where
  characterId : Nat
  depth : Nat
  matrix : Encoded ext.matrixRead
  cxform : Option (Encoded ext.cxformReadRgb)
  characterId_lt : characterId < 2 ^ 16
  depth_lt : depth < 2 ^ 16
  cxform_ne_nil : ∀ c ∈ cxform, c.bytes ≠ []

namespace PlaceObjectRecord

variable {ext : Externals Mtx Cxf} (r : PlaceObjectRecord ext)

/-- The bytes of the record. -/
def encode : List UInt8 :=
  encodeLE 2 r.characterId ++ (encodeLE 2 r.depth ++ (r.matrix.bytes ++ r.cxform.elim [] Encoded.bytes))

/-- What the record sets in `tag`: the character id, the depth, the matrix and the colour
transform if there is one; nothing else, neither flags nor ratio. -/
def decode (tag : PlaceObject2Tag Mtx Cxf) : PlaceObject2Tag Mtx Cxf :=
  { tag with
    characterId := r.characterId
    depth := r.depth + ext.staticDepthOffset
    matrix := r.matrix.value
    colorTransform := (r.cxform.map Encoded.value).getD tag.colorTransform }

end PlaceObjectRecord

theorem readPlaceObject_parses (ext : Externals Mtx Cxf) (tag : PlaceObject2Tag Mtx Cxf)
    (r : PlaceObjectRecord ext) :
    ParsesToTagEnd (readPlaceObject ext tag) r.encode (r.decode tag) := by
  unfold readPlaceObject
  refine (readLE_parses 2 _ r.characterId_lt).bind_toTagEnd <|
    (readLE_parses 2 _ r.depth_lt).bind_toTagEnd <| r.matrix.parses.bind_toTagEnd ?_
  intro s hs hend
  rw [run_bind_ok (getPosition_run s), run_bind_ok (getTagEndPosition_run s)]
  cases hc : r.cxform with
  | none =>
    simp only [hc, Option.elim_none, List.length_nil, Nat.add_zero] at hend
    rw [if_neg (by omega)]
    exact ⟨s, by simp [PlaceObjectRecord.decode, hc]; rfl, rfl, rfl, hend.symm⟩
  | some c =>
    simp only [hc, Option.elim_some] at hs hend
    have hne : 0 < c.bytes.length := List.length_pos.mpr (r.cxform_ne_nil c (by simp [hc]))
    rw [if_pos (by omega)]
    obtain ⟨s', h, hd, ht, hp⟩ := c.parses s hs
    refine ⟨s', ?_, hd, ht, by omega⟩
    rw [run_bind_ok h]
    simp [PlaceObjectRecord.decode, hc]
    rfl

/-! ### The tag -/

/-- `PlaceObject2Tag::read` reads every record of the three tags back from its encoding: an
original `PLACEOBJECT` record when it runs to the tag end, and a `PLACEOBJECT2` or
`PLACEOBJECT3` record in the tag, the second flag byte present for `PLACEOBJECT3` from movie
version 8 on. -/
theorem read_decodes (ext : Externals Mtx Cxf) (tag : PlaceObject2Tag Mtx Cxf) (movieVersion : Int) :
    (∀ r : PlaceObjectRecord ext, ParsesToTagEnd (read ext tag .placeObject movieVersion) r.encode
      (r.decode { tag with tagType := .placeObject })) ∧
    (∀ r : PlaceObject2Record ext movieVersion false,
      Parses (read ext tag .placeObject2 movieVersion) r.encode
        (r.decode { tag with tagType := .placeObject2 })) ∧
    (∀ r : PlaceObject2Record ext movieVersion (decide (movieVersion ≥ 8)),
      Parses (read ext tag .placeObject3 movieVersion) r.encode
        (r.decode { tag with tagType := .placeObject3 })) :=
  ⟨fun r => readPlaceObject_parses ext _ r, fun r => readPlaceObject2_parses ext _ movieVersion true r,
    fun r => readPlaceObject2_parses ext _ movieVersion false r⟩

/-- The original tag sets neither presence flag nor the ratio, whatever the bytes. -/
theorem readPlaceObject_keeps_flags {ext : Externals Mtx Cxf} {tag tag' : PlaceObject2Tag Mtx Cxf}
    {s s' : Stream} (h : (readPlaceObject ext tag).run s = .ok (tag', s')) :
    tag'.hasMatrix = tag.hasMatrix ∧ tag'.hasCxform = tag.hasCxform ∧ tag'.ratio = tag.ratio := by
  obtain ⟨_, _, -, h⟩ := run_bind_eq_ok h
  obtain ⟨_, _, -, h⟩ := run_bind_eq_ok h
  obtain ⟨_, _, -, h⟩ := run_bind_eq_ok h
  obtain ⟨_, _, hpos, h⟩ := run_bind_eq_ok h
  obtain ⟨_, _, hend, h⟩ := run_bind_eq_ok h
  cases hpos; cases hend
  split at h
  · obtain ⟨_, _, -, h⟩ := run_bind_eq_ok h
    cases h; exact ⟨rfl, rfl, rfl⟩
  · cases h; exact ⟨rfl, rfl, rfl⟩

/-- An original `PLACEOBJECT` record with a matrix and a colour transform, read to its end, leaves
both presence flags false. -/
theorem read_placeObject_hasCxform_unset :
    ((read sampleExternals freshTag .placeObject 6).run ⟨[1, 0, 2, 0, 7, 9], 0, 6⟩).map
      (fun r => (r.1.hasMatrix, r.1.hasCxform, r.2.position)) = .ok (false, false, 6) :=
  rfl

end Gnash.Swf
