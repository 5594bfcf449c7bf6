import Mathlib.Data.List.Basic
import Mathlib.Data.Nat.Bits

/-!
# The byte and bit cursor the tag readers consume

`PlaceObject2Tag` reads its tag through a `stream`, whose sources are not part of this
development; the stream is modelled from the cursor contract of the specification (section 4.1).
The cursor runs over the bytes of the movie (`Stream.data`) from its first byte on; the position
is a bit index (`Stream.bitPos`), so that bit reads and byte reads share one counter, bits being
taken most significant first within a byte. The end of the tag being read (`Stream.tagEnd`, the
top of the stream's tag stack) bounds every operation, as the contract asks: a read of a byte at
or past it fails with `TruncatedInput`, as one past the end of the bytes does, a string must end
before it, and a skip that would pass it fails. The readers of `PlaceObject2Tag.cpp` compare
positions with the tag end on their own as well.

A reader is a `StateT` computation over the stream that may fail (`Reader`). Each primitive is
given by what it does to a stream, and comes with a run lemma. `Ensures p Q` says that every
successful run of `p` returns a value satisfying `Q`; it has one rule for each construct of a
`do` block.

`leAt data q n` is the little-endian number of the `n` bytes of `data` from index `q` on: what
`readLE` returns (`readLE_run_ok`), stated over the bytes alone.

`Parses p bytes a` says that the reader `p`, started on any stream whose next whole bytes are
`bytes`, returns `a` and stops right after them; `Parses.bind` chains such facts, and the round
trips of whole records are assembled from the ones proved here for the primitives. `BitParses`
is the same at the level of bits, for the flag fields read by `readBit` and `readUInt`.

Source: `src/server/swf/PlaceObject2Tag.cpp` (the calls made on `stream* in`), and the cursor
contract of the specification, section 4.1.
-/

namespace Gnash.Swf

/-- The failure of a read that runs past the tag end or the end of the bytes (`TruncatedInput`). -/
inductive ParseError
  | truncatedInput
  deriving DecidableEq, Repr

/-- Modelled from the spec: the `stream` of the tag readers, a forward cursor over the bytes of
the movie (`data`), at bit `bitPos`, inside the tag that ends at byte `tagEnd`, which no read
passes. -/
structure Stream where
  data : List UInt8
  bitPos : Nat
  tagEnd : Nat
  deriving DecidableEq, Repr

/-- Readers: computations over the stream that may fail with a `ParseError`. -/
abbrev Reader := StateT Stream (Except ParseError)

namespace Stream

/-- `stream::get_position`: the bytes taken from the movie so far, a partly read byte included. -/
def position (s : Stream) : Nat := (s.bitPos + 7) / 8

/-- The stream at the start of byte `n`. -/
def seek (s : Stream) (n : Nat) : Stream := { s with bitPos := 8 * n }

/-- The byte at index `i` of the movie, or `TruncatedInput` at or past the tag end and past the
end of the bytes. -/
def byteAt (s : Stream) (i : Nat) : Except ParseError Nat :=
  if i < s.tagEnd then
    match s.data[i]? with
    | some b => .ok b.toNat
    | none => .error .truncatedInput
  else .error .truncatedInput

@[simp] theorem position_seek (s : Stream) (n : Nat) : (s.seek n).position = n := by
  simp only [position, seek]; omega

@[simp] theorem seek_data (s : Stream) (n : Nat) : (s.seek n).data = s.data := rfl

@[simp] theorem seek_tagEnd (s : Stream) (n : Nat) : (s.seek n).tagEnd = s.tagEnd := rfl

@[simp] theorem seek_bitPos (s : Stream) (n : Nat) : (s.seek n).bitPos = 8 * n := rfl

@[simp] theorem seek_seek (s : Stream) (m n : Nat) : (s.seek m).seek n = s.seek n := rfl

theorem byteAt_of_getElem? {s : Stream} {i : Nat} {b : UInt8} (hi : i < s.tagEnd)
    (h : s.data[i]? = some b) : s.byteAt i = .ok b.toNat := by
  simp only [byteAt, hi, h, if_true]

/-- A byte read succeeds only below the tag end and the end of the bytes, and returns the byte
there. -/
theorem byteAt_ok {s : Stream} {i b : Nat} (h : s.byteAt i = .ok b) :
    i < s.tagEnd ∧ i < s.data.length ∧ b = (s.data.getD i 0).toNat := by
  unfold byteAt at h
  split at h
  · split at h
    · next c hc =>
      cases h
      obtain ⟨hlt, hget⟩ := List.getElem?_eq_some_iff.mp hc
      refine ⟨‹_›, hlt, ?_⟩
      rw [List.getD_eq_getElem?_getD, hc, Option.getD_some]
    · cases h
  · cases h

end Stream

/-! ### Running readers -/

theorem run_bind_ok {α β : Type} {p : Reader α} {f : α → Reader β} {s s' : Stream} {a : α}
    (h : p.run s = .ok (a, s')) : (p >>= f).run s = (f a).run s' := by
  simp only [StateT.run_bind, h]; rfl

theorem run_bind_error {α β : Type} {p : Reader α} {f : α → Reader β} {s : Stream}
    {e : ParseError} (h : p.run s = .error e) : (p >>= f).run s = .error e := by
  simp only [StateT.run_bind, h]; rfl

/-- A bind that succeeded ran both of its parts successfully. -/
theorem run_bind_eq_ok {α β : Type} {p : Reader α} {f : α → Reader β} {s s'' : Stream} {b : β}
    (h : (p >>= f).run s = .ok (b, s'')) :
    ∃ a s', p.run s = .ok (a, s') ∧ (f a).run s' = .ok (b, s'') := by
  rw [StateT.run_bind] at h
  cases hp : p.run s with
  | error e => rw [hp] at h; cases h
  | ok q => rw [hp] at h; exact ⟨q.1, q.2, rfl, h⟩

@[simp] theorem run_pure {α : Type} (a : α) (s : Stream) :
    (pure a : Reader α).run s = .ok (a, s) := rfl

@[simp] theorem run_get (s : Stream) : (get : Reader Stream).run s = .ok (s, s) := rfl

/-! ### The primitives -/

/-- `stream::align`: the unread bits of a partly read byte are dropped. -/
def align : Reader Unit := fun s => .ok ((), s.seek s.position)

/-- `stream::read_bit`: the next bit, most significant first within its byte. -/
def readBit : Reader Bool := fun s =>
  (s.byteAt (s.bitPos / 8)).map fun b => (b.testBit (7 - s.bitPos % 8), { s with bitPos := s.bitPos + 1 })

/-- `stream::read_uint`: the next `n` bits as an unsigned number, most significant first. -/
def readUInt : Nat → Reader Nat
  | 0 => pure 0
  | n + 1 => do
    let hi ← readBit
    let lo ← readUInt n
    pure (hi.toNat * 2 ^ n + lo)

/-- `stream::read_u8`: the byte at the next byte boundary. -/
def readU8 : Reader Nat := fun s =>
  (s.byteAt s.position).map fun b => (b, s.seek (s.position + 1))

/-- `n` bytes from the next byte boundary, least significant first. -/
def readLE : Nat → Reader Nat
  | 0 => do align; pure 0
  | n + 1 => do
    let lo ← readU8
    let hi ← readLE n
    pure (lo + 256 * hi)

/-- `stream::read_u16`. -/
def readU16 : Reader Nat := readLE 2

/-- `stream::read_u32`. -/
def readU32 : Reader Nat := readLE 4

/-- `stream::read_string`: the bytes up to a zero byte, which is consumed; `TruncatedInput`
when no zero byte is left before the tag end. -/
def readString : Reader (List UInt8) := fun s =>
  let rest := (s.data.take s.tagEnd).drop s.position
  let str := rest.takeWhile (· != 0)
  if str.length < rest.length then .ok (str, s.seek (s.position + str.length + 1))
  else .error .truncatedInput

/-- `stream::skip_bytes`: move `n` bytes on from the next byte boundary; `false`, without moving,
when fewer than `n` bytes are left in the tag. -/
def skipBytes (n : Nat) : Reader Bool := fun s =>
  if s.position + n ≤ s.tagEnd then .ok (true, s.seek (s.position + n))
  else .ok (false, s.seek s.position)

/-- `stream::get_position`. -/
def getPosition : Reader Nat := fun s => .ok (s.position, s)

/-- `stream::get_tag_end_position`. -/
def getTagEndPosition : Reader Nat := fun s => .ok (s.tagEnd, s)

/-! ### Run lemmas -/

section RunLemmas

variable (s : Stream)

@[simp] theorem align_run : align.run s = .ok ((), s.seek s.position) := rfl

@[simp] theorem getPosition_run : getPosition.run s = .ok (s.position, s) := rfl

@[simp] theorem getTagEndPosition_run : getTagEndPosition.run s = .ok (s.tagEnd, s) := rfl

theorem readU8_run_of_getElem? {b : UInt8} (hi : s.position < s.tagEnd)
    (h : s.data[s.position]? = some b) : readU8.run s = .ok (b.toNat, s.seek (s.position + 1)) := by
  simp only [StateT.run, readU8, Stream.byteAt_of_getElem? hi h]; rfl

theorem readBit_run_of_getElem? {b : UInt8} (hi : s.bitPos / 8 < s.tagEnd)
    (h : s.data[s.bitPos / 8]? = some b) :
    readBit.run s = .ok (b.toNat.testBit (7 - s.bitPos % 8), { s with bitPos := s.bitPos + 1 }) := by
  simp only [StateT.run, readBit, Stream.byteAt_of_getElem? hi h]; rfl

theorem skipBytes_run (n : Nat) : (skipBytes n).run s =
    if s.position + n ≤ s.tagEnd then .ok (true, s.seek (s.position + n))
    else .ok (false, s.seek s.position) := rfl

end RunLemmas

/-- The little-endian number of the `n` bytes of `data` from index `q` on. -/
def leAt (data : List UInt8) (q : Nat) : Nat → Nat
  | 0 => 0
  | n + 1 => (data.getD q 0).toNat + 256 * leAt data (q + 1) n

/-- A successful byte read was below the tag end and the end of the bytes, returned the byte
there and moved one byte on. -/
theorem readU8_run_ok {s s' : Stream} {b : Nat} (h : readU8.run s = .ok (b, s')) :
    s.position < s.tagEnd ∧ s.position < s.data.length ∧ b = (s.data.getD s.position 0).toNat ∧
      s' = s.seek (s.position + 1) := by
  simp only [StateT.run, readU8] at h
  cases hb : s.byteAt s.position with
  | error e => rw [hb] at h; cases h
  | ok c =>
    rw [hb] at h
    cases h
    obtain ⟨ht, hl, rfl⟩ := Stream.byteAt_ok hb
    exact ⟨ht, hl, rfl, rfl⟩

/-- A successful little-endian read of `n` bytes read the `n` bytes from the next byte boundary,
all of them before the tag end and the end of the bytes, and moved past them. -/
theorem readLE_run_ok {n : Nat} {s s' : Stream} {v : Nat} (h : (readLE n).run s = .ok (v, s')) :
    (0 < n → s.position + n ≤ s.tagEnd ∧ s.position + n ≤ s.data.length) ∧
      v = leAt s.data s.position n ∧ s' = s.seek (s.position + n) := by
  induction n generalizing s v with
  | zero =>
    cases h
    exact ⟨by omega, rfl, rfl⟩
  | succ n ih =>
    obtain ⟨lo, s₁, h₁, h₂⟩ := run_bind_eq_ok h
    obtain ⟨hi, s₂, h₃, h₄⟩ := run_bind_eq_ok h₂
    cases h₄
    obtain ⟨ht, hl, rfl, rfl⟩ := readU8_run_ok h₁
    obtain ⟨hle, rfl, rfl⟩ := ih h₃
    simp only [Stream.position_seek, Stream.seek_data, Stream.seek_seek, Stream.seek_tagEnd] at hle ⊢
    refine ⟨fun _ => ?_, rfl, by rw [Nat.add_assoc, Nat.add_comm 1 n]⟩
    rcases Nat.eq_zero_or_pos n with rfl | hn
    · omega
    · have := hle hn; omega

theorem leAt_lt (data : List UInt8) (q n : Nat) : leAt data q n < 256 ^ n := by
  induction n generalizing q with
  | zero => exact Nat.one_pos
  | succ n ih =>
    have := ih (q + 1)
    have hb := (data.getD q 0).toNat_lt_size
    rw [leAt, pow_succ']
    simp only [UInt8.size] at hb
    omega

/-! ### What a reader returns -/

/-- Every successful run of `p` returns a value that satisfies `Q`. -/
def Ensures {α : Type} (p : Reader α) (Q : α → Prop) : Prop :=
  ∀ s a s', p.run s = .ok (a, s') → Q a

section Ensures

variable {α β : Type} {Q : β → Prop}

theorem ensures_pure {b : β} (h : Q b) : Ensures (pure b) Q := fun s a s' hr => by
  rw [run_pure] at hr; cases hr; exact h

theorem ensures_bind {p : Reader α} {f : α → Reader β} {P : α → Prop} (hp : Ensures p P)
    (hf : ∀ a, P a → Ensures (f a) Q) : Ensures (p >>= f) Q := fun s b s'' hr => by
  obtain ⟨a, s', h₁, h₂⟩ := run_bind_eq_ok hr
  exact hf a (hp _ _ _ h₁) _ _ _ h₂

theorem ensures_any (p : Reader α) : Ensures p fun _ => True := fun _ _ _ _ => trivial

theorem ensures_ite {c : Prop} [Decidable c] {p q : Reader β} (hp : c → Ensures p Q)
    (hq : ¬c → Ensures q Q) : Ensures (if c then p else q) Q := by
  split
  · exact hp ‹_›
  · exact hq ‹_›

/-- An optional step of a `do` block: a reader, or a value, handed to the rest `k`. -/
theorem ensures_ite_bind {c : Prop} [Decidable c] {p : Reader α} {v : α} {k : α → Reader β}
    {R : α → Prop} (hp : c → Ensures p R) (hv : ¬c → R v) (hk : ∀ u, R u → Ensures (k u) Q) :
    Ensures (if c then p >>= k else pure v >>= k) Q :=
  ensures_ite (fun hc => ensures_bind (hp hc) hk) fun hc => ensures_bind (ensures_pure (hv hc)) hk

/-- An optional field of a `do` block: a value read and stored with `g`, or a default `v`,
handed to the rest `k`. -/
theorem ensures_ite_field {γ : Type} {c : Prop} [Decidable c] {p : Reader γ} {g : γ → α} {v : α}
    {k : α → Reader β} {R : α → Prop} (hg : ∀ x, R (g x)) (hv : R v)
    (hk : ∀ u, R u → Ensures (k u) Q) :
    Ensures (if c then p >>= fun x => pure (g x) >>= k else pure v >>= k) Q :=
  ensures_ite (fun _ => ensures_bind (ensures_any p) fun x _ => ensures_bind (ensures_pure (hg x)) hk)
    fun _ => ensures_bind (ensures_pure hv) hk

end Ensures

theorem readU16_ensures : Ensures readU16 (· < 2 ^ 16) := fun s _ _ h =>
  (readLE_run_ok h).2.1 ▸ leAt_lt s.data s.position 2

/-! ### Reading back encoded bytes -/

/-- The next whole bytes of `s` are `bytes`, and they lie in the tag, whose end is an
`unsigned long`. -/
def InTag (s : Stream) (bytes : List UInt8) : Prop :=
  bytes <+: s.data.drop s.position ∧ s.position + bytes.length ≤ s.tagEnd ∧ s.tagEnd < 2 ^ 64

namespace InTag

variable {s s' : Stream} {b₁ b₂ : List UInt8}

theorem left (h : InTag s (b₁ ++ b₂)) : InTag s b₁ :=
  ⟨(List.prefix_append b₁ b₂).trans h.1, by have := h.2.1; simp at this; omega, h.2.2⟩

/-- What is left of the bytes once a reader has consumed `b₁`. -/
theorem right (h : InTag s (b₁ ++ b₂)) (hd : s'.data = s.data) (ht : s'.tagEnd = s.tagEnd)
    (hp : s'.position = s.position + b₁.length) : InTag s' b₂ := by
  obtain ⟨⟨t, hpre⟩, hend, hlt⟩ := h
  rw [List.length_append] at hend
  refine ⟨⟨t, ?_⟩, by omega, by omega⟩
  rw [hd, hp, ← List.drop_drop, ← hpre, List.append_assoc, List.drop_left]

end InTag

/-- `p` reads `a` back from `bytes`: started on any stream whose next whole bytes are `bytes`,
lying in the tag, it returns `a` and stops right after them, the movie and the tag end
untouched. -/
def Parses {α : Type} (p : Reader α) (bytes : List UInt8) (a : α) : Prop :=
  ∀ s : Stream, InTag s bytes →
    ∃ s', p.run s = .ok (a, s') ∧ s'.data = s.data ∧ s'.tagEnd = s.tagEnd ∧
      s'.position = s.position + bytes.length

namespace Parses

variable {α β : Type}

theorem bind {p : Reader α} {f : α → Reader β} {b₁ b₂ : List UInt8} {a : α} {c : β}
    (hp : Parses p b₁ a) (hf : Parses (f a) b₂ c) : Parses (p >>= f) (b₁ ++ b₂) c := by
  intro s hs
  obtain ⟨s₁, h₁, hd₁, ht₁, hpos₁⟩ := hp s hs.left
  obtain ⟨s₂, h₂, hd₂, ht₂, hpos₂⟩ := hf s₁ (hs.right hd₁ ht₁ hpos₁)
  exact ⟨s₂, by rw [run_bind_ok h₁, h₂], hd₂.trans hd₁, ht₂.trans ht₁,
    by rw [hpos₂, hpos₁, List.length_append, Nat.add_assoc]⟩

theorem pure (a : α) : Parses (Pure.pure a : Reader α) [] a :=
  fun s _ => ⟨s, rfl, rfl, rfl, rfl⟩

theorem congr_bytes {p : Reader α} {bytes bytes' : List UInt8} {a : α} (h : Parses p bytes a)
    (hb : bytes = bytes') : Parses p bytes' a :=
  hb ▸ h

theorem congr_value {p : Reader α} {bytes : List UInt8} {a a' : α} (h : Parses p bytes a)
    (ha : a = a') : Parses p bytes a' :=
  ha ▸ h

theorem bind_pure {p : Reader α} {f : α → β} {bytes : List UInt8} {a : α}
    (h : Parses p bytes a) : Parses (p >>= fun x => Pure.pure (f x)) bytes (f a) := by
  simpa using Parses.bind (f := fun x => Pure.pure (f x)) h (Parses.pure (f a))

end Parses

theorem align_parses : Parses align [] () :=
  fun s _ => ⟨s.seek s.position, rfl, rfl, rfl, by simp⟩

theorem getElem?_eq_of_cons_prefix_drop {l : List UInt8} {n : Nat} {b : UInt8} {rest : List UInt8}
    (h : b :: rest <+: l.drop n) : l[n]? = some b := by
  obtain ⟨t, ht⟩ := h
  have := congrArg (·[0]?) ht
  simpa using this.symm

theorem readU8_parses (b : UInt8) : Parses readU8 [b] b.toNat := fun s hs =>
  ⟨_, readU8_run_of_getElem? s (by have := hs.2.1; simp at this; omega)
    (getElem?_eq_of_cons_prefix_drop hs.1), rfl, rfl, by simp⟩

/-- The little-endian encoding of `v` in `n` bytes. -/
def encodeLE : Nat → Nat → List UInt8
  | 0, _ => []
  | n + 1, v => UInt8.ofNat (v % 256) :: encodeLE n (v / 256)

@[simp] theorem length_encodeLE (n v : Nat) : (encodeLE n v).length = n := by
  induction n generalizing v with
  | zero => rfl
  | succ n ih => simp [encodeLE, ih]

theorem readLE_parses (n v : Nat) (hv : v < 256 ^ n) : Parses (readLE n) (encodeLE n v) v := by
  induction n generalizing v with
  | zero =>
    obtain rfl : v = 0 := by simpa using hv
    simpa using Parses.bind (f := fun _ => Pure.pure 0) align_parses (Parses.pure 0)
  | succ n ih =>
    have hlo : (UInt8.ofNat (v % 256)).toNat = v % 256 :=
      UInt8.toNat_ofNat_of_lt (Nat.mod_lt _ (by omega))
    have hhi : v / 256 < 256 ^ n := by rw [pow_succ'] at hv; omega
    have h := Parses.bind (f := fun lo => readLE n >>= fun hi => Pure.pure (lo + 256 * hi))
      (readU8_parses (UInt8.ofNat (v % 256)))
      ((ih (v / 256) hhi).bind_pure (f := fun hi => (UInt8.ofNat (v % 256)).toNat + 256 * hi))
    exact h.congr_value (by rw [hlo]; omega)

theorem readString_parses (str : List UInt8) (hstr : ∀ b ∈ str, b ≠ 0) :
    Parses readString (str ++ [0]) str := by
  intro s ⟨hpre, hend, _⟩
  simp only [List.length_append, List.length_singleton] at hend
  -- the string and its zero byte lie before the tag end
  obtain ⟨t, ht⟩ : str ++ [0] <+: (s.data.take s.tagEnd).drop s.position := by
    rw [List.drop_take, List.prefix_take_iff]
    exact ⟨hpre, by simp; omega⟩
  have htake : ((s.data.take s.tagEnd).drop s.position).takeWhile (· != 0) = str := by
    rw [← ht, List.append_assoc, List.takeWhile_append_of_pos (by simpa using hstr)]
    simp
  refine ⟨s.seek (s.position + str.length + 1), ?_, rfl, rfl, by simp [Nat.add_assoc]⟩
  simp only [StateT.run, readString, htake]
  rw [if_pos (by rw [← ht]; simp)]

/-- A successful string read found a zero byte after the string, before the tag end, and stopped
right after it. -/
theorem readString_run_ok {s s' : Stream} {str : List UInt8} (h : readString.run s = .ok (str, s')) :
    str ++ [0] <+: (s.data.take s.tagEnd).drop s.position ∧
      s' = s.seek (s.position + str.length + 1) := by
  simp only [StateT.run, readString] at h
  split at h
  · next hlt =>
    cases h
    have hsplit := List.takeWhile_append_dropWhile (· != (0 : UInt8))
      ((s.data.take s.tagEnd).drop s.position)
    cases hd : ((s.data.take s.tagEnd).drop s.position).dropWhile (· != 0) with
    | nil =>
      rw [hd, List.append_nil] at hsplit
      rw [hsplit] at hlt
      exact absurd hlt (lt_irrefl _)
    | cons b t =>
      have hb := List.head_dropWhile_not (· != (0 : UInt8)) ((s.data.take s.tagEnd).drop s.position)
        (by simp [hd])
      simp only [hd, List.head_cons, bne_eq_false_iff_eq] at hb
      refine ⟨⟨t, ?_⟩, rfl⟩
      conv_rhs => rw [← hsplit, hd, hb]
      simp
  · cases h

/-! ### Reading back encoded bits -/

section Bits

variable {α β : Type}

/-- The bit at bit index `k` of `data`, each byte read from its most significant bit on. -/
def bitAt (data : List UInt8) (k : Nat) : Option Bool :=
  data[k / 8]?.map fun b => b.toNat.testBit (7 - k % 8)

/-- The bits of a byte, most significant first. -/
def byteBits (b : UInt8) : List Bool := (List.range 8).map fun i => b.toNat.testBit (7 - i)

/-- `p` reads `a` back from the next `bits`, lying before the tag end: it returns `a` and moves
the cursor past them. -/
def BitParses (p : Reader α) (bits : List Bool) (a : α) : Prop :=
  ∀ s : Stream, s.bitPos + bits.length ≤ 8 * s.tagEnd →
    (∀ j (h : j < bits.length), bitAt s.data (s.bitPos + j) = some bits[j]) →
    p.run s = .ok (a, { s with bitPos := s.bitPos + bits.length })

namespace BitParses

theorem bind {p : Reader α} {f : α → Reader β} {b₁ b₂ : List Bool} {a : α} {c : β}
    (hp : BitParses p b₁ a) (hf : BitParses (f a) b₂ c) : BitParses (p >>= f) (b₁ ++ b₂) c := by
  intro s hend hs
  rw [List.length_append] at hend
  have h₁ := hp s (by omega) fun j h => by
    have := hs j (by simp; omega)
    rwa [List.getElem_append_left h] at this
  have h₂ := hf { s with bitPos := s.bitPos + b₁.length } (by dsimp only; omega) fun j h => by
    have := hs (b₁.length + j) (by simp; omega)
    rw [List.getElem_append_right (by omega)] at this
    simpa [Nat.add_assoc] using this
  rw [run_bind_ok h₁, h₂, List.length_append, Nat.add_assoc]

theorem pure (a : α) : BitParses (Pure.pure a : Reader α) [] a :=
  fun _ _ _ => rfl

theorem congr_bits {p : Reader α} {bits bits' : List Bool} {a : α} (h : BitParses p bits a)
    (hb : bits = bits') : BitParses p bits' a :=
  hb ▸ h

end BitParses

theorem readBit_bitParses (x : Bool) : BitParses readBit [x] x := by
  intro s hend hs
  have h := hs 0 (by simp)
  simp only [bitAt, Nat.add_zero, Option.map_eq_some', List.getElem_singleton] at h
  obtain ⟨b, hb, rfl⟩ := h
  exact readBit_run_of_getElem? s (by simp at hend; omega) hb

/-- The number `readUInt` makes of its bits, most significant first. -/
def bitsValue : List Bool → Nat
  | [] => 0
  | b :: bs => b.toNat * 2 ^ bs.length + bitsValue bs

theorem bitsValue_lt (bs : List Bool) : bitsValue bs < 2 ^ bs.length := by
  induction bs with
  | nil => decide
  | cons b bs ih =>
    rw [bitsValue, List.length_cons, Nat.pow_succ]
    cases b <;> simp only [Bool.toNat_false, Bool.toNat_true] <;> omega

/-- Bit `j` of a list, counted from the most significant, is the binary digit of weight
`2 ^ (length - 1 - j)` of its value. -/
theorem testBit_bitsValue (bs : List Bool) (j : Nat) (hj : j < bs.length) :
    (bitsValue bs).testBit (bs.length - 1 - j) = bs[j] := by
  induction bs generalizing j with
  | nil => contradiction
  | cons b bs ih =>
    have hlt := bitsValue_lt bs
    rw [bitsValue, List.length_cons]
    cases j with
    | zero =>
      rw [Nat.add_sub_cancel, Nat.sub_zero]
      cases b <;> simp [Nat.testBit_two_pow_add_eq, Nat.testBit_lt_two_pow hlt]
    | succ j =>
      have hj' : j < bs.length := Nat.lt_of_succ_lt_succ hj
      rw [show bs.length + 1 - 1 - (j + 1) = bs.length - 1 - j by omega]
      cases b <;>
        simpa [Nat.testBit_two_pow_add_gt (show bs.length - 1 - j < bs.length by omega)] using ih j hj'

/-- Eight bits make a byte whose bits they are. -/
theorem byteBits_ofNat_bitsValue (bits : List Bool) (h : bits.length = 8) :
    byteBits (UInt8.ofNat (bitsValue bits)) = bits := by
  have hlt : bitsValue bits < UInt8.size := by simpa only [h] using bitsValue_lt bits
  refine List.ext_getElem (by simp [byteBits, h]) fun i _ hi => ?_
  simp only [byteBits, List.getElem_map, List.getElem_range, UInt8.toNat_ofNat_of_lt hlt]
  simpa only [h] using testBit_bitsValue bits i hi

theorem readUInt_bitParses (bits : List Bool) :
    BitParses (readUInt bits.length) bits (bitsValue bits) := by
  induction bits with
  | nil => exact BitParses.pure 0
  | cons b bs ih =>
    exact ((readBit_bitParses b).bind
      (ih.bind (f := fun lo => Pure.pure (b.toNat * 2 ^ bs.length + lo)) (BitParses.pure _))).congr_bits
      (by simp)

/-- The bits of `bytes`, byte after byte. -/
def bytesBits (bytes : List UInt8) : List Bool := bytes.flatMap byteBits

@[simp] theorem length_byteBits (b : UInt8) : (byteBits b).length = 8 := by simp [byteBits]

@[simp] theorem length_bytesBits (bytes : List UInt8) : (bytesBits bytes).length = 8 * bytes.length := by
  induction bytes with
  | nil => rfl
  | cons b bs ih => simp only [bytesBits, List.flatMap_cons, List.length_append] at ih ⊢; simp [ih]; omega

theorem bitAt_of_prefix {data : List UInt8} (bytes : List UInt8) :
    ∀ {n : Nat}, bytes <+: data.drop n → ∀ j (hj : j < (bytesBits bytes).length),
      bitAt data (8 * n + j) = some (bytesBits bytes)[j] := by
  induction bytes with
  | nil => intro n _ j hj; simp [bytesBits] at hj
  | cons b bs ih =>
    intro n h j hj
    have hb := getElem?_eq_of_cons_prefix_drop h
    have hbs : bs <+: data.drop (n + 1) := by
      obtain ⟨t, ht⟩ := h
      exact ⟨t, by rw [← List.drop_drop, ← ht]; rfl⟩
    simp only [length_bytesBits, List.length_cons] at hj
    simp only [bytesBits, List.flatMap_cons]
    by_cases hj8 : j < 8
    · rw [List.getElem_append_left (by simpa using hj8)]
      simp [bitAt, byteBits, hb, show (8 * n + j) / 8 = n by omega, show (8 * n + j) % 8 = j by omega]
    · rw [List.getElem_append_right (by simpa using hj8)]
      have := ih hbs (j - 8) (by rw [length_bytesBits]; omega)
      rw [show 8 * (n + 1) + (j - 8) = 8 * n + j by omega] at this
      simpa only [length_byteBits] using this

/-- Aligning and then reading bit by bit reads whole bytes. -/
theorem Parses.align_bind {p : Reader α} {bytes : List UInt8} {a : α}
    (h : BitParses p (bytesBits bytes) a) : Parses (align >>= fun _ => p) bytes a := by
  intro s ⟨hs, hend, _⟩
  have hrun := h (s.seek s.position) (by simp; omega) fun j hj => by
    simpa using bitAt_of_prefix bytes hs j hj
  refine ⟨{ s.seek s.position with bitPos := 8 * s.position + 8 * bytes.length },
    by rw [run_bind_ok (align_run s), hrun]; simp, rfl, rfl, ?_⟩
  simp only [Stream.position]
  omega

end Bits

/-! ### Optional fields and the tag end -/

section Combinators

variable {α β γ δ : Type}

/-- An optional field, as the join points of a `do` block lay it out: read by `p` and passed on
to the rest `k` of the block when the option is present, `t` passed on when it is not. -/
theorem Parses.ite_bind {p : Reader β} {k : β → Reader δ} {o : Option γ}
    {enc : γ → List UInt8} {t v : β} {rest : List UInt8} {w : δ}
    (hp : ∀ c, o = some c → Parses p (enc c) v) (ht : o = none → t = v)
    (hk : Parses (k v) rest w) :
    Parses (if o.isSome then p >>= k else Pure.pure t >>= k) (o.elim [] enc ++ rest) w := by
  cases o with
  | none => exact (ht rfl) ▸ hk
  | some c => exact (hp c rfl).bind hk

/-- An optional field stored into the tag by `upd`. -/
theorem Parses.ite_field {p : Reader α} {k : β → Reader δ} {upd : α → β} {o : Option γ}
    {enc : γ → List UInt8} {g : γ → α} {t v : β} {rest : List UInt8} {w : δ}
    (hp : ∀ c, o = some c → Parses p (enc c) (g c) ∧ upd (g c) = v) (ht : o = none → t = v)
    (hk : Parses (k v) rest w) :
    Parses (if o.isSome then p >>= fun x => Pure.pure (upd x) >>= k else Pure.pure t >>= k)
      (o.elim [] enc ++ rest) w := by
  cases o with
  | none => exact (ht rfl) ▸ hk
  | some c =>
    obtain ⟨hc, hv⟩ := hp c rfl
    exact hc.bind (hv ▸ hk)

/-- A value of an external reader, with bytes it reads it back from. -/
structure Encoded (p : Reader α) where
  value : α
  bytes : List UInt8
  parses : Parses p bytes value

/-- `p` reads `a` back from `bytes` when they run exactly to the end of the tag. -/
def ParsesToTagEnd (p : Reader α) (bytes : List UInt8) (a : α) : Prop :=
  ∀ s : Stream, InTag s bytes → s.tagEnd = s.position + bytes.length →
    ∃ s', p.run s = .ok (a, s') ∧ s'.data = s.data ∧ s'.tagEnd = s.tagEnd ∧ s'.position = s.tagEnd

theorem Parses.bind_toTagEnd {p : Reader α} {f : α → Reader β} {b₁ b₂ : List UInt8} {a : α}
    {c : β} (hp : Parses p b₁ a) (hf : ParsesToTagEnd (f a) b₂ c) :
    ParsesToTagEnd (p >>= f) (b₁ ++ b₂) c := by
  intro s hs hend
  obtain ⟨s₁, h₁, hd₁, ht₁, hp₁⟩ := hp s hs.left
  obtain ⟨s₂, h₂, hd₂, ht₂, hp₂⟩ := hf s₁ (hs.right hd₁ ht₁ hp₁) (by simp at hend; omega)
  exact ⟨s₂, by rw [run_bind_ok h₁, h₂], hd₂.trans hd₁, ht₂.trans ht₁, by rw [hp₂, ht₁]⟩

/-- A byte of the format, read and dropped. -/
theorem discard_readU8_parses (b : UInt8) : Parses (discard readU8) [b] () :=
  (readU8_parses b).bind_pure (f := fun _ => ())

end Combinators

end Gnash.Swf
