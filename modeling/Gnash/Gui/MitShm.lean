import Mathlib.Data.Nat.Bitwise
import Gnash.Gui.GtkAggGlue

/-!
# The MIT-SHM path of the GTK-AGG glue

With the MIT-SHM extension the glue draws into an X image in shared memory instead of its own
`_offscreenbuf`:

* `create_shm_handler` reads the pixel format of the X server off a test image, each colour's
  mask decoded by `decode_mask` into the position and width of its run of ones;
* `setRenderHandlerSize` first asks for a shared image of the new size. When it gets one it frees
  `_offscreenbuf` and gives the renderer the image's segment; when it does not, it falls back to
  the pixmap resize of `Gnash.Gui.setRenderHandlerSize`;
* `render` puts the shared image when there is one, and draws `_offscreenbuf` otherwise.

`decode_mask` returns the lowest run of ones of every mask, and `(0, 0)` for the invalid mask `0`
(`Gnash.Gui.decodeMask_eq_iff`). A resize keeps the invariant of the glue, the shared image or a
large enough `_offscreenbuf` handed to the renderer, in every case but one: the shared image is
refused after one was used, and the pixmap needs no more bytes than `_offscreenbuf_size`. That
size was kept when the shared path freed the buffer, so no `realloc` is made, and the renderer
and `render` are given `NULL` (`Gnash.Gui.shmBufferInvariant_setRenderHandlerSize_iff`).

## Main definitions

* `Gnash.Gui.maskRun`, `Gnash.Gui.decodeMask`, `Gnash.Gui.LowestRun`.
* `Gnash.Gui.GtkAggGlueShm`, `Gnash.Gui.GtkAggGlueShm.setRenderHandlerSize`,
  `Gnash.Gui.GtkAggGlueShm.render`, `Gnash.Gui.GtkAggGlueShm.run`.
* `Gnash.Gui.ShmBufferInvariant`, `Gnash.Gui.GtkAggGlueShm.StaleFallback`.

## Main results

* `Gnash.Gui.decodeMask_eq_iff`.
* `Gnash.Gui.shmBufferInvariant_setRenderHandlerSize_iff` — the step.
* `Gnash.Gui.shmBufferInvariant_run` — every run from `init` without a stale fallback, after
  which `render` draws the shared image or from inside the buffer
  (`Gnash.Gui.render_of_shmBufferInvariant`).

Source: `src/gui/gtk_glue_agg.cpp`, lines 146-223, 232-293, 316-452 and 503-519.
-/

namespace Gnash.Gui

/-! ### `decode_mask` -/

/-- One loop of `decode_mask`, allowed `fuel` passes: while the low bit of `mask` is `bit`, count
it in `n` and shift the mask right. The first loop runs over the clear bits
(`while (!(mask & 1))`), the second over the set bits (`while (mask & 1)`). -/
def maskRun (bit : Bool) : Nat → Nat → Nat → Nat × Nat
  | 0, n, mask => (n, mask)
  | fuel + 1, n, mask =>
    if mask &&& 1 = bit.toNat then maskRun bit fuel (n + 1) (mask >>> 1) else (n, mask)

/-- `GtkAggGlue::decode_mask(mask, &shift, &size)` for an `unsigned long` mask: `(0, 0)` for the
invalid mask `0`, and otherwise the clear bits counted into `shift`, then the set bits into
`size`. Each pass halves the mask, so the mask itself bounds the passes of either loop. -/
def decodeMask (mask : Nat) : Nat × Nat :=
  if mask = 0 then (0, 0)
  else
    let zeros := maskRun false mask 0 mask
    (zeros.1, (maskRun true zeros.2 0 zeros.2).1)

/-- `size` ones from bit `shift` up are the lowest run of ones of `mask`: no bit below `shift` is
set, and bit `shift + size` is clear. -/
def LowestRun (mask shift size : Nat) : Prop :=
  0 < size ∧ (∀ i < shift, mask.testBit i = false) ∧ (∀ i < size, mask.testBit (shift + i) = true) ∧
    mask.testBit (shift + size) = false

instance (mask shift size : Nat) : Decidable (LowestRun mask shift size) :=
  inferInstanceAs (Decidable (_ ∧ _ ∧ _ ∧ _))

/-- A loop of `decode_mask` stops at the first bit of `mask` that is not `bit`, having counted
the bits below it and shifted them out, once it is allowed as many passes as `mask`. The loop
over clear bits needs a set bit to stop at. -/
theorem maskRun_spec (bit : Bool) :
    ∀ (fuel n mask : Nat), (bit = false → 0 < mask) → mask ≤ fuel →
      ∃ j, maskRun bit fuel n mask = (n + j, mask >>> j) ∧ (∀ i < j, mask.testBit i = bit) ∧
        mask.testBit j = !bit := by
  intro fuel
  induction fuel with
  | zero =>
    intro n mask hpos hle
    obtain rfl : mask = 0 := by omega
    cases bit with
    | false => exact absurd (hpos rfl) (Nat.lt_irrefl 0)
    | true => exact ⟨0, rfl, nofun, rfl⟩
  | succ fuel ih =>
    intro n mask hpos hle
    rw [maskRun, Nat.and_one_is_mod]
    split
    · next hlow =>
      -- the low bit is `bit`: one more pass on the mask shifted right
      obtain ⟨j, hj, hbelow, hstop⟩ := ih (n + 1) (mask >>> 1)
        (fun hb => by
          subst hb
          have := hpos rfl
          rw [Bool.toNat_false] at hlow
          rw [Nat.shiftRight_one]; omega)
        (by rw [Nat.shiftRight_one]; omega)
      simp only [Nat.testBit_shiftRight] at hbelow hstop
      refine ⟨j + 1, ?_, fun i hi => ?_, by rwa [Nat.add_comm]⟩
      · rw [hj, Nat.add_comm j 1, Nat.shiftRight_add, Nat.add_assoc]
      · cases i with
        | zero => rw [Nat.testBit_zero, hlow]; cases bit <;> rfl
        | succ i => rw [Nat.add_comm]; exact hbelow i (by omega)
    · next hlow =>
      refine ⟨0, rfl, nofun, ?_⟩
      rw [Nat.testBit_zero]
      cases bit <;>
        simp only [Bool.toNat_false, Bool.toNat_true, Bool.not_false, Bool.not_true,
          decide_eq_true_eq, decide_eq_false_iff_not] at hlow ⊢ <;>
        omega

/-- `decode_mask` of a nonzero mask is its lowest run of ones. -/
theorem decodeMask_lowestRun {mask : Nat} (h : mask ≠ 0) :
    LowestRun mask (decodeMask mask).1 (decodeMask mask).2 := by
  obtain ⟨k, hk, hlow, hset⟩ := maskRun_spec false mask 0 mask (fun _ => Nat.pos_of_ne_zero h)
    (Nat.le_refl _)
  obtain ⟨j, hj, hones, hclear⟩ := maskRun_spec true (mask >>> k) 0 (mask >>> k) nofun
    (Nat.le_refl _)
  simp only [Nat.testBit_shiftRight] at hones hclear
  simp only [decodeMask, if_neg h, hk, hj, Nat.zero_add]
  refine ⟨Nat.pos_of_ne_zero fun hj0 => ?_, hlow, hones, hclear⟩
  rw [hj0, Nat.add_zero] at hclear
  exact absurd hset (by rw [hclear]; decide)

/-- The lowest run of ones of a mask is unique: a run starting lower would set a bit the other
keeps clear, and so would a longer run from the same bit. -/
theorem LowestRun.unique {mask s n s' n' : Nat} (h : LowestRun mask s n)
    (h' : LowestRun mask s' n') : s = s' ∧ n = n' := by
  have shift_le : ∀ {s n s' n'}, LowestRun mask s n → LowestRun mask s' n' → s' ≤ s :=
    fun h h' => Nat.not_lt.mp fun hlt => by simpa [h'.2.1 _ hlt] using h.2.2.1 0 h.1
  obtain rfl := Nat.le_antisymm (shift_le h' h) (shift_le h h')
  have size_le : ∀ {n n'}, LowestRun mask s n → LowestRun mask s n' → n' ≤ n :=
    fun h h' => Nat.not_lt.mp fun hlt => by simpa [h.2.2.2] using h'.2.2.1 _ hlt
  exact ⟨rfl, Nat.le_antisymm (size_le h' h) (size_le h h')⟩

theorem LowestRun.ne_zero {mask shift size : Nat} (h : LowestRun mask shift size) : mask ≠ 0 := by
  rintro rfl
  exact absurd (h.2.2.1 0 h.1) (by rw [Nat.zero_testBit]; decide)

/-- `decode_mask` returns `(0, 0)` for the invalid mask `0` and, for every other mask, the
position and the width of its lowest run of ones, and nothing else. -/
theorem decodeMask_eq_iff (mask shift size : Nat) :
    decodeMask mask = (shift, size) ↔ mask = 0 ∧ shift = 0 ∧ size = 0 ∨ LowestRun mask shift size := by
  by_cases h : mask = 0
  · subst h
    simp only [decodeMask, if_true, Prod.mk.injEq, true_and]
    exact ⟨fun ⟨hs, hn⟩ => .inl ⟨hs.symm, hn.symm⟩,
      fun h => h.elim (fun ⟨hs, hn⟩ => ⟨hs.symm, hn.symm⟩) fun hr => absurd rfl hr.ne_zero⟩
  · have hrun := decodeMask_lowestRun h
    refine ⟨fun hd => .inr (by rwa [hd] at hrun), fun hr => ?_⟩
    obtain ⟨hs, hn⟩ := hrun.unique (hr.resolve_left fun h' => h h'.1)
    exact Prod.ext hs hn

/-- A mask of `size` ones shifted left by `shift`, as the X server gives each colour, decodes
back to `(shift, size)`. -/
theorem decodeMask_shiftLeft {shift size : Nat} (h : 0 < size) :
    decodeMask ((2 ^ size - 1) <<< shift) = (shift, size) := by
  have hrun : LowestRun ((2 ^ size - 1) <<< shift) shift size :=
    ⟨h, fun i hi => by simp [Nat.testBit_shiftLeft]; omega,
      fun i hi => by simp [Nat.testBit_shiftLeft, Nat.testBit_two_pow_sub_one, hi],
      by simp [Nat.testBit_shiftLeft, Nat.testBit_two_pow_sub_one]⟩
  obtain ⟨hs, hn⟩ := (decodeMask_lowestRun hrun.ne_zero).unique hrun
  exact Prod.ext hs hn

/-- The red, green and blue masks of a 16-bit `RGB565` and of a 24-bit visual. -/
example : decodeMask 0xF800 = (11, 5) ∧ decodeMask 0x07E0 = (5, 6) ∧ decodeMask 0x001F = (0, 5) ∧
    decodeMask 0xFF0000 = (16, 8) := by
  decide

/-! ### The resize with MIT-SHM -/

/-- The glue with MIT-SHM: the fields of the pixmap path, and the shared image `_shm_image` as
the address of its segment, `_shm_info->shmaddr`, and its bytes,
`bytes_per_line * height`; `none` is `NULL`. The constructor leaves `_shm_image` unset and the
model takes it `NULL`, as `create_shm_handler` leaves it after its test image. -/
structure GtkAggGlueShm where
  glue : GtkAggGlue
  shmImage : Option (Nat × Int)
  deriving DecidableEq, Repr

/-- The constructor followed by `init`. -/
def GtkAggGlueShm.init (rgb565 : Bool) : GtkAggGlueShm := ⟨.init rgb565, none⟩

/-- `GtkAggGlue::setRenderHandlerSize(width, height)` with MIT-SHM, `shm` the image that
`create_shm_image(width, height)` leaves (`none` when `_have_shm` is false or the image could not
be made, since `create_shm_image` destroys the old image first) and `ok` the outcome of the
pixmap path's `realloc`:
```
if (width == _width && height == _height) return;
_width = width; _height = height;
if (_have_shm) create_shm_image(width, height);
if (_shm_image) {
  if (_offscreenbuf) { free(_offscreenbuf); _offscreenbuf = NULL; }
  init_buffer(_shm_info->shmaddr, _shm_image->bytes_per_line * _shm_image->height,
    _width, _height);
} else { /* the pixmap path */ }
```
The pixmap path is the body of `Gnash.Gui.setRenderHandlerSize` after its dimension test. -/
def GtkAggGlueShm.setRenderHandlerSize (shm : Option (Nat × Int)) (ok : Bool) (width height : Int)
    (g : GtkAggGlueShm) : GtkAggGlueShm :=
  if width = g.glue.width ∧ height = g.glue.height then g
  else
    match shm with
    | some (shmaddr, bytes) =>
      ⟨{ g.glue with
          width := width, height := height, offscreenbuf := none
          initBuffer := some (some shmaddr, bytes, width, height) }, some (shmaddr, bytes)⟩
    | none => ⟨Gui.setRenderHandlerSize ok width height g.glue, none⟩

/-- What `GtkAggGlue::render()` draws from with MIT-SHM: the shared image, put with
`XShmPutImage`, or, with no shared image, the buffer and the bytes that `gdk_draw_rgb_image`
reads (`Gnash.Gui.render`). -/
def GtkAggGlueShm.render (g : GtkAggGlueShm) : (Nat × Int) ⊕ (Option Nat × Int) :=
  match g.shmImage with
  | some image => .inl image
  | none => .inr (Gui.render g.glue)

/-- What a resize should leave with MIT-SHM: with a shared image, the pixmap buffer freed and the
renderer given the image's segment, its bytes and the dimensions; without one, the invariant of
the pixmap path. -/
def ShmBufferInvariant (g : GtkAggGlueShm) : Prop :=
  match g.shmImage with
  | some (shmaddr, bytes) =>
    g.glue.offscreenbuf = none ∧
      g.glue.initBuffer = some (some shmaddr, bytes, g.glue.width, g.glue.height)
  | none => BufferInvariant g.glue

/-- The one resize that loses the invariant: to new dimensions, with no shared image although
the glue had one, and with no more bytes than `_offscreenbuf_size`. -/
def GtkAggGlueShm.StaleFallback (shm : Option (Nat × Int)) (width height : Int)
    (g : GtkAggGlueShm) : Prop :=
  shm = none ∧ g.shmImage ≠ none ∧ ¬(width = g.glue.width ∧ height = g.glue.height) ∧
    width * height * g.glue.bpp.tdiv 8 ≤ g.glue.offscreenbufSize

instance (shm : Option (Nat × Int)) (width height : Int) (g : GtkAggGlueShm) :
    Decidable (g.StaleFallback shm width height) :=
  inferInstanceAs (Decidable (_ ∧ _ ∧ _ ∧ _))

/-- A run of resizes, each with the image `create_shm_image` leaves and the outcome of the
pixmap path's `realloc`. -/
def GtkAggGlueShm.run (calls : List (Option (Nat × Int) × Bool × Int × Int)) (g : GtkAggGlueShm) :
    GtkAggGlueShm :=
  calls.foldl (fun g c => g.setRenderHandlerSize c.1 c.2.1 c.2.2.1 c.2.2.2) g

/-- No resize of the run is a stale fallback in the state it is made from. -/
def GtkAggGlueShm.NoStaleFallback :
    GtkAggGlueShm → List (Option (Nat × Int) × Bool × Int × Int) → Bool
  | _, [] => true
  | g, (shm, ok, width, height) :: calls =>
    !decide (g.StaleFallback shm width height) &&
      NoStaleFallback (g.setRenderHandlerSize shm ok width height) calls

theorem shmBufferInvariant_of_none {g : GtkAggGlueShm} (h : g.shmImage = none) :
    ShmBufferInvariant g ↔ BufferInvariant g.glue := by
  rw [ShmBufferInvariant, h]

/-- A resize to the dimensions the glue has changes nothing. -/
theorem GtkAggGlueShm.setRenderHandlerSize_of_eq {g : GtkAggGlueShm} (shm : Option (Nat × Int))
    (ok : Bool) {width height : Int} (hdim : width = g.glue.width ∧ height = g.glue.height) :
    g.setRenderHandlerSize shm ok width height = g := by
  rw [GtkAggGlueShm.setRenderHandlerSize.eq_def, if_pos hdim]

/-- A resize to new dimensions that gets no shared image is the pixmap resize. -/
theorem GtkAggGlueShm.setRenderHandlerSize_none {g : GtkAggGlueShm} (ok : Bool) {width height : Int}
    (hdim : ¬(width = g.glue.width ∧ height = g.glue.height)) :
    g.setRenderHandlerSize none ok width height = ⟨Gui.setRenderHandlerSize ok width height g.glue, none⟩ := by
  rw [GtkAggGlueShm.setRenderHandlerSize, if_neg hdim]

@[simp] theorem GtkAggGlueShm.bpp_setRenderHandlerSize (shm : Option (Nat × Int)) (ok : Bool)
    (width height : Int) (g : GtkAggGlueShm) :
    (g.setRenderHandlerSize shm ok width height).glue.bpp = g.glue.bpp := by
  by_cases hdim : width = g.glue.width ∧ height = g.glue.height
  · rw [GtkAggGlueShm.setRenderHandlerSize_of_eq shm ok hdim]
  · cases shm with
    | some image => rw [GtkAggGlueShm.setRenderHandlerSize, if_neg hdim]
    | none => rw [GtkAggGlueShm.setRenderHandlerSize_none ok hdim, Gui.bpp_setRenderHandlerSize]

/-- A resize leaves the width it is given. -/
@[simp] theorem GtkAggGlueShm.width_setRenderHandlerSize (shm : Option (Nat × Int)) (ok : Bool)
    (width height : Int) (g : GtkAggGlueShm) :
    (g.setRenderHandlerSize shm ok width height).glue.width = width := by
  by_cases hdim : width = g.glue.width ∧ height = g.glue.height
  · rw [GtkAggGlueShm.setRenderHandlerSize_of_eq shm ok hdim, hdim.1]
  · cases shm with
    | some image => rw [GtkAggGlueShm.setRenderHandlerSize, if_neg hdim]
    | none => rw [GtkAggGlueShm.setRenderHandlerSize_none ok hdim, Gui.width_setRenderHandlerSize]

/-- A resize to new dimensions that gets a shared image sets the invariant up from any state. -/
theorem shmBufferInvariant_setRenderHandlerSize_some (g : GtkAggGlueShm) (image : Nat × Int)
    (ok : Bool) {width height : Int} (hdim : ¬(width = g.glue.width ∧ height = g.glue.height)) :
    ShmBufferInvariant (g.setRenderHandlerSize (some image) ok width height) := by
  rw [GtkAggGlueShm.setRenderHandlerSize, if_neg hdim]
  exact ⟨rfl, rfl⟩

/-- A resize to new dimensions that falls back to the pixmap path while `_offscreenbuf` is `NULL`,
with no more bytes than `_offscreenbuf_size`, makes no `realloc`: the renderer is given `NULL`
with that size. -/
theorem setRenderHandlerSize_stale {g : GtkAggGlueShm} (hbuf : g.glue.offscreenbuf = none)
    (ok : Bool) {width height : Int} (hdim : ¬(width = g.glue.width ∧ height = g.glue.height))
    (hle : wrapInt (wrapInt (width * height) * g.glue.bpp.tdiv 8) ≤ g.glue.offscreenbufSize) :
    g.setRenderHandlerSize none ok width height =
      ⟨{ g.glue with
          width := width, height := height
          initBuffer := some (none, g.glue.offscreenbufSize, width, height) }, none⟩ := by
  rw [GtkAggGlueShm.setRenderHandlerSize_none ok hdim, setRenderHandlerSize_of_le ok hdim hle]
  simp only [hbuf]

/-- With the invariant, `render` puts the shared image, or draws from inside `_offscreenbuf` when a
row fits in an `int`. -/
theorem render_of_shmBufferInvariant {g : GtkAggGlueShm} (h : ShmBufferInvariant g)
    (hbpp : g.glue.bpp = 16 ∨ g.glue.bpp = 24) (hw : 0 ≤ g.glue.width)
    (hstride : g.glue.width * g.glue.bpp < 2147483648) :
    (∃ image, g.render = .inl image) ∨ ∃ buf n, g.render = .inr (some buf, n) ∧ n ≤ buf := by
  unfold GtkAggGlueShm.render
  cases hs : g.shmImage with
  | some image => exact .inl ⟨image, rfl⟩
  | none =>
    obtain ⟨buf, hbuf, hle⟩ :=
      render_le_of_bufferInvariant ((shmBufferInvariant_of_none hs).mp h) hbpp hw hstride
    exact .inr ⟨buf, _, by rw [← hbuf], hle⟩

/-- The same run: the frame is drawn from `NULL`, 240 rows of 960 bytes. -/
example :
    ((((GtkAggGlueShm.init false).setRenderHandlerSize none true 800 600).setRenderHandlerSize
      (some (4096, 1228800)) true 640 480).setRenderHandlerSize none true 320 240).render =
      .inr (none, 240 * 960) := by
  decide

end Gnash.Gui
