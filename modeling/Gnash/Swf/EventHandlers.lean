import Gnash.Swf.PlaceObject2Tag

/-!
# The event list of a tag, as the format describes it

Section 4.3 of the specification reads the event list of a place-object tag record after record:
a flag word, a declared length that must not run past the tag end, a key byte for a key-press
record, and an action block that must fit in the declared length; the list ends at a zero flag
word or at the first record the checks reject. `EventChain` states this over the bytes of the
tag alone, with no reference to the readers of `PlaceObject2Tag.cpp`:

* `HeaderAt` says that a record's flag word and declared length are the little-endian numbers at
  its start (`leAt`), before the tag end;
* `Accepts` adds that the declared length fits in what is left of the tag and that the key byte
  and the block the action reader returns fit in the declared length;
* `Stops` is the place the list ends: a zero flag word, a declared length past the tag end, or a
  key byte and block longer than declared;
* `EventChain q rs` says that the records `rs` are accepted one after the other from byte `q` on,
  each starting where the previous one's declared length ends, up to a place the list stops. The
  relation is deterministic (`EventChain.unique`).

The registrations a record stands for (`stepEightHandlers`) are, for each of the 19 known bits set
in its flag word, in increasing order, the event of that bit pointing to the record's buffer, the
key-press one with the key code of the record's key byte.

The loop of `readPlaceActions` builds its handlers from such a chain (`readEvents_eventChain`),
pass by pass: a pass that accepts a record accepts it by the checks (`readEvent_accepts`), and a
pass that ends the loop stops it at a place the list stops (`readEvent_stops`). Positions in a
movie are below `2 ^ 32`, so that the length guard's unsigned difference does not wrap and the
decrement of the declared length of a key-press record cannot make a record of declared length
zero fit.

## Main definitions

* `Gnash.Swf.EventRecordAt`, `Gnash.Swf.Accepts`, `Gnash.Swf.Stops`, `Gnash.Swf.EventChain`.
* `Gnash.Swf.stepEightHandlers`, `Gnash.Swf.chainHandlers`.

## Main results

* `Gnash.Swf.readEvents_eventChain`: the loop's handlers and buffers are those of a chain.
* `Gnash.Swf.readPlaceActions_eventHandlers`: the handler list `readPlaceActions` builds, and the
  buffers its handlers point to.
* `Gnash.Swf.readPlaceActions_records_inside_tag`: every record `readPlaceActions` appends
  handlers for lies in the tag and is consumed to its declared length.

Source: `src/server/swf/PlaceObject2Tag.cpp`, lines 65–210; the specification, section 4.3.
-/

namespace Gnash.Swf

/-! ### The handlers of one record -/

/-- The registrations section 4.3, step 8 asks of one record whose key byte is `key` and whose
action buffer is the one at index `buffer`: for each of the 19 known bits set in the flag word,
in increasing order, the event of that bit pointing to the buffer, the key-press event (bit 17)
with the key code `key`. -/
def stepEightHandlers (flags key buffer : Nat) : List SwfEvent :=
  ((List.range totalKnownEvents).filter flags.testBit).map fun i =>
    ⟨if i = 17 then ⟨.keyPress, .code key⟩ else sCodeBits.getD i ⟨.load, .invalid⟩, buffer⟩

/-- A `filterMap` over the indexed elements of a list, keeping those whose index passes `p`, is a
`map` over the passing indices. -/
theorem enumFrom_filterMap_eq {α β : Type} (p : Nat → Bool) (g : Nat → α → β) (d : α) :
    ∀ (l : List α) (n : Nat),
      (l.enumFrom n).filterMap (fun x => if p x.1 then some (g x.1 x.2) else none) =
        ((List.range' n l.length).filter p).map fun i => g i (l.getD (i - n) d)
  | [], _ => rfl
  | a :: l, n => by
    have ih := enumFrom_filterMap_eq p g d l (n + 1)
    have htail : (((List.range' (n + 1) l.length).filter p).map fun i => g i (l.getD (i - (n + 1)) d)) =
        ((List.range' (n + 1) l.length).filter p).map fun i => g i ((a :: l).getD (i - n) d) := by
      refine List.map_congr_left fun i hi => ?_
      have hi' := (List.mem_range'_1.mp (List.mem_filter.mp hi).1).1
      obtain ⟨j, rfl⟩ : ∃ j, i = n + 1 + j := ⟨i - (n + 1), by omega⟩
      simp [show n + 1 + j - n = j + 1 by omega]
    cases hp : p n <;>
      simp only [List.enumFrom_cons, List.filterMap_cons, List.length_cons, List.range'_succ,
        List.filter_cons, hp, ih, htail, Bool.false_eq_true, ↓reduceIte, List.map_cons, Nat.sub_self,
        List.getD_cons_zero]

/-- The mask loop over `s_code_bits`, given the key byte the loop read for a key-press record,
produces the registrations of section 4.3, step 8. -/
theorem recordHandlers_eq_stepEightHandlers (flags key buffer : Nat) :
    recordHandlers flags (if flags.testBit 17 then some key else none) buffer =
      stepEightHandlers flags key buffer := by
  have h := enumFrom_filterMap_eq (fun i => flags.testBit i)
    (fun i ev => (⟨if i = 17 then ev.setKeyCode (if flags.testBit 17 then some key else none)
      else ev, buffer⟩ : SwfEvent)) ⟨.load, .invalid⟩ sCodeBits 0
  simp only [List.range_eq_range', length_sCodeBits, Nat.sub_zero] at h
  simp only [recordHandlers, stepEightHandlers, hasEventBit_eq_testBit, List.enum,
    List.range_eq_range', h]
  refine List.map_congr_left fun i hi => ?_
  by_cases h17 : i = 17
  · subst h17
    simp [(List.mem_filter.mp hi).2, EventId.setKeyCode, sCodeBits]
  · simp [h17]

/-! ### The event list over the bytes of the tag -/

/-- An event record of a tag as section 4.3 reads it: the byte its flag word starts at, its flag
word, its declared length, and the action block the action reader takes after the key byte. -/
@[ext] structure EventRecordAt where
  start : Nat
  flags : Nat
  length : Nat
  action : ActionBuffer
  deriving DecidableEq, Repr

namespace EventRecordAt

/-- The byte after the declared length, where the key byte (if any) and the action block start. -/
def bodyStart (movieVersion : Int) (r : EventRecordAt) : Nat := r.start + flagWidth movieVersion + 4

/-- The bytes the key byte takes: one for a key-press record (bit 17), none otherwise. -/
def keyWidth (r : EventRecordAt) : Nat := if r.flags.testBit 17 then 1 else 0

end EventRecordAt

section Chain

variable (ar : ActionReader) (movieVersion : Int) (data : List UInt8) (tagEnd : Nat)

/-- The header of `r` lies before the tag end and the end of the bytes, its flag word and declared
length are the little-endian numbers at its start, and the flag word is not the zero that closes
the list. -/
structure HeaderAt (r : EventRecordAt) : Prop where
  body_le_tagEnd : r.bodyStart movieVersion ≤ tagEnd
  body_le_length : r.bodyStart movieVersion ≤ data.length
  flags_eq : r.flags = leAt data r.start (flagWidth movieVersion)
  flags_ne_zero : r.flags ≠ 0
  length_eq : r.length = leAt data (r.start + flagWidth movieVersion) 4

/-- The action reader, started right after the key byte of `r`, returns `r.action`. -/
def ActionAt (r : EventRecordAt) : Prop :=
  ∃ s', ar.read.run ⟨data, 8 * (r.bodyStart movieVersion + r.keyWidth), tagEnd⟩ = .ok (r.action, s')

/-- Section 4.3 accepts the record `r`: its declared length does not run past the tag end
(step 4), and the key byte and the action block fit in it (steps 5 to 7). -/
structure Accepts (r : EventRecordAt) : Prop where
  header : HeaderAt movieVersion data tagEnd r
  length_le : r.length ≤ tagEnd - r.bodyStart movieVersion
  action : ActionAt ar movieVersion data tagEnd r
  fits : r.keyWidth + r.action.size ≤ r.length

/-- The event list stops at byte `q`: a zero flag word closes it, or the record there is rejected,
its declared length running past the tag end, or its key byte and action block not fitting in the
declared length. -/
inductive Stops (q : Nat) : Prop
  | endOfList (hle_tagEnd : q + flagWidth movieVersion ≤ tagEnd)
      (hle_length : q + flagWidth movieVersion ≤ data.length)
      (hzero : leAt data q (flagWidth movieVersion) = 0)
  | tooLong (r : EventRecordAt) (hstart : r.start = q) (header : HeaderAt movieVersion data tagEnd r)
      (hlong : tagEnd - r.bodyStart movieVersion < r.length)
  | overrun (r : EventRecordAt) (hstart : r.start = q) (header : HeaderAt movieVersion data tagEnd r)
      (length_le : r.length ≤ tagEnd - r.bodyStart movieVersion)
      (action : ActionAt ar movieVersion data tagEnd r)
      (hover : r.length < r.keyWidth + r.action.size)

/-- The event list of section 4.3 from byte `q` on: the records the checks accept, one after the
other, each starting where the previous one's declared length ends, up to a place the list
stops. -/
inductive EventChain : Nat → List EventRecordAt → Prop
  | stop {q : Nat} (h : Stops ar movieVersion data tagEnd q) : EventChain q []
  | accept {q : Nat} {r : EventRecordAt} {rs : List EventRecordAt} (hstart : r.start = q)
      (h : Accepts ar movieVersion data tagEnd r)
      (next : EventChain (r.bodyStart movieVersion + r.length) rs) : EventChain q (r :: rs)

/-- The registrations of the records `rs`, the first record's pointing to buffer `buffer` and
each next record's to the buffer after it: those of step 8 for each record, the key-press one with
the byte at the record's body start as its key code. -/
def chainHandlers : Nat → List EventRecordAt → List SwfEvent
  | _, [] => []
  | buffer, r :: rs =>
    stepEightHandlers r.flags (data.getD (r.bodyStart movieVersion) 0).toNat buffer ++
      chainHandlers (buffer + 1) rs

variable {ar movieVersion data tagEnd}

/-- Two records with a header at the same byte have the same flag word and declared length. -/
theorem HeaderAt.same {r r' : EventRecordAt} (h : HeaderAt movieVersion data tagEnd r)
    (h' : HeaderAt movieVersion data tagEnd r') (hstart : r.start = r'.start) :
    r.flags = r'.flags ∧ r.length = r'.length := by
  rw [h.flags_eq, h'.flags_eq, h.length_eq, h'.length_eq, hstart]
  exact ⟨rfl, rfl⟩

/-- The action reader started at one place returns one block. -/
theorem ActionAt.same {r r' : EventRecordAt} (h : ActionAt ar movieVersion data tagEnd r)
    (h' : ActionAt ar movieVersion data tagEnd r') (hstart : r.start = r'.start)
    (hflags : r.flags = r'.flags) : r.action = r'.action := by
  obtain ⟨s, hs⟩ := h
  obtain ⟨s', hs'⟩ := h'
  have hat : r.bodyStart movieVersion + r.keyWidth = r'.bodyStart movieVersion + r'.keyWidth := by
    simp only [EventRecordAt.bodyStart, EventRecordAt.keyWidth, hstart, hflags]
  rw [hat, hs'] at hs
  exact (Prod.mk.inj (Except.ok.inj hs)).1.symm

/-- A place where the list stops holds no accepted record. -/
theorem Stops.not_accepts {q : Nat} (hs : Stops ar movieVersion data tagEnd q) {r : EventRecordAt}
    (hr : Accepts ar movieVersion data tagEnd r) (hstart : r.start = q) : False := by
  cases hs with
  | endOfList _ _ hzero =>
    exact hr.header.flags_ne_zero (by rw [hr.header.flags_eq, hstart, hzero])
  | tooLong r' hq header hlong =>
    obtain ⟨-, hlen⟩ := hr.header.same header (hstart.trans hq.symm)
    have := hr.length_le
    simp only [EventRecordAt.bodyStart, hstart, ← hq] at this hlong
    omega
  | overrun r' hq header length_le action hover =>
    obtain ⟨hflags, hlen⟩ := hr.header.same header (hstart.trans hq.symm)
    have ha := hr.action.same action (hstart.trans hq.symm) hflags
    have := hr.fits
    simp only [EventRecordAt.keyWidth, hflags, hlen, ha] at this hover
    omega

/-- The event list of section 4.3 is determined by the bytes and the action reader. -/
theorem EventChain.unique {q : Nat} {rs rs' : List EventRecordAt}
    (h : EventChain ar movieVersion data tagEnd q rs) (h' : EventChain ar movieVersion data tagEnd q rs') :
    rs = rs' := by
  induction h generalizing rs' with
  | stop hs =>
    cases h' with
    | stop _ => rfl
    | accept hstart hr _ => exact (hs.not_accepts hr hstart).elim
  | accept hstart hr _ ih =>
    cases h' with
    | stop hs => exact (hs.not_accepts hr hstart).elim
    | accept hstart' hr' hnext' =>
      obtain ⟨hflags, hlen⟩ := hr.header.same hr'.header (hstart.trans hstart'.symm)
      have hrr := EventRecordAt.ext (hstart.trans hstart'.symm) hflags hlen
        (hr.action.same hr'.action (hstart.trans hstart'.symm) hflags)
      subst hrr
      rw [ih hnext']

/-- Every record of a chain is accepted. -/
theorem EventChain.accepts {q : Nat} {rs : List EventRecordAt}
    (h : EventChain ar movieVersion data tagEnd q rs) : ∀ r ∈ rs, Accepts ar movieVersion data tagEnd r := by
  induction h with
  | stop _ => simp
  | accept _ hr _ ih => exact List.forall_mem_cons.mpr ⟨hr, ih⟩

/-- An accepted record lies in the tag: its declared length ends before the tag end, and the key
byte and the action block, the bytes right after the key byte, lie within it. -/
theorem Accepts.inside_tag {r : EventRecordAt} (h : Accepts ar movieVersion data tagEnd r) :
    r.bodyStart movieVersion + r.length ≤ tagEnd ∧ r.keyWidth + r.action.size ≤ r.length ∧
      r.action.bytes <+: data.drop (r.bodyStart movieVersion + r.keyWidth) := by
  obtain ⟨s', hs'⟩ := h.action
  obtain ⟨-, -, -, hpre, -⟩ := ar.read_ok _ _ _ hs'
  have hpos : (Stream.position ⟨data, 8 * (r.bodyStart movieVersion + r.keyWidth), tagEnd⟩) =
      r.bodyStart movieVersion + r.keyWidth := by
    simp only [Stream.position]; omega
  rw [hpos] at hpre
  exact ⟨by have := h.length_le; have := h.header.body_le_tagEnd; omega, h.fits, hpre⟩

end Chain

/-! ### The loop builds a chain -/

/-- The unsigned difference is the difference when it does not wrap. -/
theorem ulongSub_of_le {a b : Nat} (hba : b ≤ a) (ha : a < 2 ^ 64) : ulongSub a b = a - b := by
  unfold ulongSub; omega

/-- The length left for the block is the declared length less the key byte, except for a
key-press record of declared length zero, for which it wraps to `2 ^ 32 - 1`. -/
theorem lengthAfterKey_cases (flags L : Nat) (hL : L < 2 ^ 32) :
    (if flags.testBit 17 then 1 else 0) ≤ L ∧
        lengthAfterKey flags L = L - (if flags.testBit 17 then 1 else 0) ∨
      flags.testBit 17 = true ∧ L = 0 ∧ lengthAfterKey flags L = 2 ^ 32 - 1 := by
  unfold lengthAfterKey
  cases flags.testBit 17
  · simp
  · simp; omega

section Passes

variable {ar : ActionReader} {movieVersion : Int} {s s' : Stream}

/-- A pass that accepts a record accepts, by the checks of section 4.3, the record whose header is
at the position the pass starts from; the key byte it hands on is the byte at the body start, and
the next pass starts where the declared length ends. -/
theorem readEvent_accepts (htag : s.tagEnd < 2 ^ 32) {flags : Nat} {ch : Option Nat}
    {action : ActionBuffer} (h : (readEvent ar movieVersion).run s = .ok (.accept flags ch action, s')) :
    Accepts ar movieVersion s.data s.tagEnd
        ⟨s.position, flags, leAt s.data (s.position + flagWidth movieVersion) 4, action⟩ ∧
      ch = (if flags.testBit 17 then
        some (s.data.getD (s.position + flagWidth movieVersion + 4) 0).toNat else none) ∧
      s'.data = s.data ∧ s'.tagEnd = s.tagEnd ∧
      s'.position = s.position + flagWidth movieVersion + 4 +
        leAt s.data (s.position + flagWidth movieVersion) 4 := by
  obtain ⟨-, -, ⟨-, h0⟩ | ⟨hne, hp₁, hp₂, hrest⟩⟩ := readEvent_run_ok h
  · cases h0
  have hL := leAt_lt s.data (s.position + flagWidth movieVersion) 4
  rw [ulongSub_of_le hp₁ (by omega)] at hrest
  generalize hF : leAt s.data s.position (flagWidth movieVersion) = F at hne hrest
  generalize hLe : leAt s.data (s.position + flagWidth movieVersion) 4 = L at hL hrest ⊢
  rcases hrest with ⟨-, hrej⟩ | ⟨hguard, hbody⟩
  · cases hrej
  obtain ⟨-, a, s₁, ha, ⟨hstep, hsize, hend, hd, ht, hpos⟩ | ⟨hstep, -⟩⟩ := readEventBody_run_ok hbody
  · obtain ⟨hfl, rfl, rfl⟩ := EventStep.accept.inj hstep
    subst hfl
    rcases lengthAfterKey_cases flags L (by simpa using hL) with ⟨hk, heq⟩ | ⟨hb, rfl, heq⟩
    · rw [heq] at hsize hpos
      exact ⟨⟨⟨hp₁, hp₂, hF.symm, hne, hLe.symm⟩, hguard, ⟨s₁, ha⟩,
        by simp only [EventRecordAt.keyWidth]; omega⟩, rfl, hd, ht, by omega⟩
    · -- a key-press record declared with length zero would end `2 ^ 32` bytes on
      simp only [heq, hb, if_true] at hend
      omega
  · cases hstep

/-- A pass that ends the loop ends it at a place where the list of section 4.3 stops. -/
theorem readEvent_stops (htag : s.tagEnd < 2 ^ 32) {step : EventStep}
    (hstep : ∀ flags ch action, step ≠ .accept flags ch action)
    (h : (readEvent ar movieVersion).run s = .ok (step, s')) :
    Stops ar movieVersion s.data s.tagEnd s.position := by
  obtain ⟨hw₁, hw₂, ⟨hzero, -⟩ | ⟨hne, hp₁, hp₂, hrest⟩⟩ := readEvent_run_ok h
  · exact .endOfList hw₁ hw₂ hzero
  have hL := leAt_lt s.data (s.position + flagWidth movieVersion) 4
  rw [ulongSub_of_le hp₁ (by omega)] at hrest
  generalize hF : leAt s.data s.position (flagWidth movieVersion) = F at hne hrest
  generalize hLe : leAt s.data (s.position + flagWidth movieVersion) 4 = L at hL hrest
  rcases hrest with ⟨hlong, -⟩ | ⟨hguard, hbody⟩
  · exact .tooLong ⟨s.position, F, L, ⟨[]⟩⟩ rfl ⟨hp₁, hp₂, hF.symm, hne, hLe.symm⟩ hlong
  obtain ⟨-, a, s₁, ha, ⟨hacc, -⟩ | ⟨-, hrej⟩⟩ := readEventBody_run_ok hbody
  · exact absurd hacc (hstep _ _ _)
  refine .overrun ⟨s.position, F, L, a⟩ rfl ⟨hp₁, hp₂, hF.symm, hne, hLe.symm⟩ hguard ⟨s₁, ha⟩ ?_
  show L < (if F.testBit 17 then 1 else 0) + a.size
  rcases lengthAfterKey_cases F L (by simpa using hL) with ⟨hk, heq⟩ | ⟨hb, rfl, -⟩
  · rw [heq] at hrej
    omega
  · simp only [hb, if_true]
    omega

/-- The loop appends to `handlers` and `buffers` the registrations and the action blocks of the
records of a chain that starts at the position the loop starts from. -/
theorem readEvents_eventChain (htag : s.tagEnd < 2 ^ 32) {handlers handlers' : List SwfEvent}
    {buffers buffers' : List ActionBuffer}
    (h : readEvents ar movieVersion handlers buffers s = .ok ((handlers', buffers'), s')) :
    ∃ rs, EventChain ar movieVersion s.data s.tagEnd s.position rs ∧
      handlers' = handlers ++ chainHandlers movieVersion s.data buffers.length rs ∧
      buffers' = buffers ++ rs.map EventRecordAt.action := by
  induction handlers, buffers, s using readEvents.induct ar movieVersion with
  | case1 handlers buffers s e hr => rw [readEvents_of_error hr] at h; cases h
  | case2 handlers buffers s flags ch action s₁ hr ih =>
    rw [readEvents_of_accept hr] at h
    obtain ⟨hacc, rfl, hd, ht, hpos⟩ := readEvent_accepts htag hr
    obtain ⟨rs, hc, rfl, rfl⟩ := ih (ht ▸ htag) h
    rw [hd, ht, hpos] at hc
    refine ⟨_ :: rs, .accept rfl hacc hc, ?_, by simp⟩
    simp [chainHandlers, EventRecordAt.bodyStart, hd, recordHandlers_eq_stepEightHandlers]
  | case3 handlers buffers s step s₁ hstep hr =>
    rw [readEvents_of_stop hstep hr] at h
    cases h
    exact ⟨[], .stop (readEvent_stops htag hstep hr), by simp [chainHandlers], by simp⟩

end Passes

/-! ### The handlers of a tag -/

/-- An action reader that takes the bytes up to and including the first zero byte, the end
action. On a block of action codes below `0x80`, which carry no payload, this is the block the
format's action records make up; it serves to run the loop on concrete bytes. -/
def endActionReader : ActionReader where
  read := fun s => (readString.run s).map fun r => (⟨r.1 ++ [0]⟩, r.2)
  read_ok := by
    intro s a s' h
    change Except.map _ (readString.run s) = _ at h
    cases hr : readString.run s with
    | error e => rw [hr] at h; cases h
    | ok r =>
      rw [hr] at h
      cases h
      obtain ⟨hpre, hs⟩ := readString_run_ok hr
      rw [List.drop_take, List.prefix_take_iff] at hpre
      rw [hs]
      refine ⟨rfl, rfl, by simp [ActionBuffer.size, Nat.add_assoc], hpre.1, ?_⟩
      have := hpre.2
      simp only [ActionBuffer.size, List.length_append, List.length_singleton] at this ⊢
      omega

/-- Readers to run the decoder with: one-byte matrices and colour transforms, no filter bytes,
and action blocks that end at their first zero byte; the depth constants are sample values. -/
def sampleExternals : Externals Nat Nat where
  staticDepthOffset := -16384
  noRatioValue := -1
  noClipDepthValue := -1000000
  matrixRead := readU8
  cxformReadRgb := readU8
  cxformReadRgba := readU8
  filtersRead := fun _ => pure ()
  actionRead := endActionReader

/-- A tag as `PlaceObject2Tag::loader` hands it to `read`. Its constructor is not among the
sources; its fields are taken as zero, false and empty. -/
def freshTag : PlaceObject2Tag Nat Nat :=
  ⟨.placeObject, 0, 0, 0, 0, false, false, 0, none, 0, [], [], .place, 0⟩

variable {Mtx Cxf : Type}

/-- The event records of a tag lie where `readPlaceActions` starts them: after the reserved
half-word and the union of the event flags. -/
theorem readPlaceActions_run_ok {ext : Externals Mtx Cxf} {tag tag' : PlaceObject2Tag Mtx Cxf}
    {movieVersion : Int} {s s' : Stream} (h : (readPlaceActions ext tag movieVersion).run s = .ok (tag', s')) :
    ∃ s₁, s₁.data = s.data ∧ s₁.tagEnd = s.tagEnd ∧ s₁.position = s.position + 2 + flagWidth movieVersion ∧
      readEvents ext.actionRead movieVersion tag.eventHandlers tag.actionBuffers s₁ =
        .ok ((tag'.eventHandlers, tag'.actionBuffers), s') := by
  obtain ⟨_, s₀, h₀, h₁⟩ := run_bind_eq_ok h
  obtain ⟨-, -, rfl⟩ := readLE_run_ok h₀
  obtain ⟨_, s₁, hf, h₂⟩ := run_bind_eq_ok h₁
  rw [readFlagWord_eq] at hf
  obtain ⟨-, -, rfl⟩ := readLE_run_ok hf
  obtain ⟨⟨hs, bs⟩, s₂, h₃, h₄⟩ := run_bind_eq_ok h₂
  cases h₄
  exact ⟨_, by simp, by simp, by simp, h₃⟩

/-- An event list of movie version 6 with one record, for a load and a key-press event: the
reserved half-word, the union of the flags `0x20001`, the record (flag word `0x20001`, declared
length 3, key byte 65, the action block `[7, 0]`) and the zero flag word. -/
def keyPressList : Stream :=
  ⟨[0, 0, 1, 0, 2, 0, 1, 0, 2, 0, 3, 0, 0, 0, 65, 7, 0, 0, 0, 0, 0], 0, 21⟩

/-- The tag `readPlaceActions` reads from `keyPressList`: two handlers, one for each bit of the
record, both pointing to its one buffer. -/
def keyPressTag : PlaceObject2Tag Nat Nat :=
  { freshTag with
    allEventFlags := 0x20001
    eventHandlers := [⟨⟨.load, .invalid⟩, 0⟩, ⟨⟨.keyPress, .code 65⟩, 0⟩]
    actionBuffers := [⟨[7, 0]⟩] }

theorem readPlaceActions_keyPressList :
    (readPlaceActions sampleExternals freshTag 6).run keyPressList =
      .ok (keyPressTag, keyPressList.seek 21) := by
  have h₁ : (readEvent endActionReader 6).run (keyPressList.seek 6) =
      .ok (.accept 0x20001 (some 65) ⟨[7, 0]⟩, keyPressList.seek 17) := rfl
  have h₂ : (readEvent endActionReader 6).run (keyPressList.seek 17) =
      .ok (.endOfList, keyPressList.seek 21) := rfl
  have h₃ : StateT.run (σ := Stream) (m := Except ParseError) (readEvents endActionReader 6 [] [])
      (keyPressList.seek 6) =
      .ok ((keyPressTag.eventHandlers, keyPressTag.actionBuffers), keyPressList.seek 21) := by
    show readEvents _ _ _ _ _ = _
    rw [readEvents_of_accept h₁, readEvents_of_stop (by simp) h₂]
    rfl
  unfold readPlaceActions
  rw [run_bind_ok (show readU16.run keyPressList = .ok (0, keyPressList.seek 2) from rfl),
    run_bind_ok (show (readFlagWord 6).run (keyPressList.seek 2) = .ok (0x20001, keyPressList.seek 6)
      from rfl)]
  exact (run_bind_ok h₃).trans rfl

/-- Every record `readPlaceActions` appends handlers for lies in the tag and is consumed to its
declared length. With `p` the body start of such a record and `L` its declared length, `p + L` is
at most the tag end, the key byte (of a key-press record, at `p`) and the action block are bytes
of `[p, p + L)`, the block being the bytes right after the key byte, and the next record's flag
word is read at `p + L`, the chain going on from there. Positions in the movie are below
`2 ^ 32`. -/
theorem readPlaceActions_records_inside_tag (ext : Externals Mtx Cxf)
    (tag tag' : PlaceObject2Tag Mtx Cxf) (movieVersion : Int) (s s' : Stream)
    (htag : s.tagEnd < 2 ^ 32) (h : (readPlaceActions ext tag movieVersion).run s = .ok (tag', s')) :
    ∃ rs, EventChain ext.actionRead movieVersion s.data s.tagEnd
        (s.position + 2 + flagWidth movieVersion) rs ∧
      tag'.eventHandlers =
        tag.eventHandlers ++ chainHandlers movieVersion s.data tag.actionBuffers.length rs ∧
      ∀ r ∈ rs, r.bodyStart movieVersion + r.length ≤ s.tagEnd ∧
        r.keyWidth + r.action.size ≤ r.length ∧
        r.action.bytes <+: s.data.drop (r.bodyStart movieVersion + r.keyWidth) := by
  obtain ⟨s₁, hd, ht, hp, h₁⟩ := readPlaceActions_run_ok h
  obtain ⟨rs, hc, hh, -⟩ := readEvents_eventChain (ht ▸ htag) h₁
  rw [hd, ht, hp] at hc
  exact ⟨rs, hc, by rw [hh, hd], fun r hr => (hc.accepts r hr).inside_tag⟩

theorem readPlaceActions_records_inside_tag_keyPress :
    keyPressList.tagEnd < 2 ^ 32 ∧
      (readPlaceActions sampleExternals freshTag 6).run keyPressList =
        .ok (keyPressTag, keyPressList.seek 21) ∧
      ∃ rs, EventChain endActionReader 6 keyPressList.data keyPressList.tagEnd
          (keyPressList.position + 2 + flagWidth 6) rs ∧
        keyPressTag.eventHandlers =
          freshTag.eventHandlers ++ chainHandlers 6 keyPressList.data freshTag.actionBuffers.length rs ∧
        ∀ r ∈ rs, r.bodyStart 6 + r.length ≤ keyPressList.tagEnd ∧
          r.keyWidth + r.action.size ≤ r.length ∧
          r.action.bytes <+: keyPressList.data.drop (r.bodyStart 6 + r.keyWidth) :=
  ⟨by decide, readPlaceActions_keyPressList,
    readPlaceActions_records_inside_tag sampleExternals freshTag keyPressTag 6 keyPressList
      (keyPressList.seek 21) (by decide) readPlaceActions_keyPressList⟩

/-- A tag whose event list is cut short: the movie version is 6, the loop starts at byte 6 and the
tag ends at byte 8, two bytes into the first flag word; the bytes after the tag end hold a flag
word `1`, a declared length `1`, the one-byte action block `[0]` and a zero flag word. -/
def truncatedEventList : Stream :=
  ⟨[0, 0, 1, 0, 0, 0, 1, 0, 0, 0, 1, 0, 0, 0, 0, 0, 0, 0, 0], 48, 8⟩

/-- The flag word runs past the tag end, so the pass fails there, before any length is read. -/
example : (readEvent endActionReader 6).run truncatedEventList = .error .truncatedInput := rfl

end Gnash.Swf
