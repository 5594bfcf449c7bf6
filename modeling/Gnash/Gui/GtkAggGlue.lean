import Mathlib.Algebra.Group.Int

/-!
# The offscreen buffer of the GTK-AGG glue

`GtkAggGlue` hands the AGG renderer a buffer to draw into and, in `render`, gives that buffer to
`gdk_draw_rgb_image`. Without the MIT-SHM extension (`_have_shm` false) the buffer is the
`_offscreenbuf` it allocates itself: `setRenderHandlerSize(width, height)` records the new size,
grows the buffer with `realloc` in chunks of `100 * 100` pixels when the size needs more bytes
than it has, and calls the renderer's `init_buffer` with the buffer, its size and the new
dimensions.

The glue is modelled as a state, a resize as a step that takes the outcome of its `realloc`,
and the `int` arithmetic of the sizes, of the row stride `(int)(_width*_bpp/8)` and of the offset
of a rectangle is wrapped to 32 bits. `Gnash.Gui.BufferInvariant` is what a resize should leave: a
buffer large enough for the dimensions, which the renderer was given. Every run of resizes whose
`realloc`s succeed and whose byte counts fit in an `int` keeps it from the first resize on, and
when a row of the last width also fits in an `int`, `render` then reads inside the buffer
(`Gnash.Gui.run_bufferInvariant`), as does the partial `render` of any rectangle inside the frame
(`Gnash.Gui.renderRect_le_of_bufferInvariant`). A failed `realloc` leaves `_offscreenbuf` `NULL`
with the new dimensions recorded, and a resize to the same dimensions returns at once, so
`render` reads from `NULL` (`Gnash.Gui.setRenderHandlerSize_realloc_fails`).

## Main definitions

* `Gnash.Gui.GtkAggGlue`, `Gnash.Gui.setRenderHandlerSize`, `Gnash.Gui.render`,
  `Gnash.Gui.renderRect`.
* `Gnash.Gui.BufferInvariant`.

## Main results

* `Gnash.Gui.setRenderHandlerSize_of_le`, `Gnash.Gui.bufferInvariant_setRenderHandlerSize_of_lt` —
  the two outcomes of a resize to new dimensions: the buffer kept, or grown by `realloc`.
* `Gnash.Gui.bufferInvariant_setRenderHandlerSize` — a resize with a successful `realloc` and
  no overflow keeps the invariant, or sets it up from the state after `init`.
* `Gnash.Gui.run_bufferInvariant`, `Gnash.Gui.renderRect_le_of_bufferInvariant`.

Source: `src/gui/gtk_glue_agg.cpp`, lines 73-104 and 315-492.
-/

namespace Gnash.Gui

/-- The `int` result of C arithmetic, wrapped to 32 bits. -/
def wrapInt (x : Int) : Int := (x + 2147483648) % 4294967296 - 2147483648

theorem wrapInt_of_lt {x : Int} (h₁ : -2147483648 ≤ x) (h₂ : x < 2147483648) : wrapInt x = x := by
  unfold wrapInt; omega

/-- The fields of `GtkAggGlue` that the standard-pixmap path reads and writes, and the last call
of the renderer's `init_buffer`. A block of memory is the number of bytes it holds, `none` is
`NULL`. -/
structure GtkAggGlue where
  offscreenbuf : Option Nat
  offscreenbufSize : Int
  width : Int
  height : Int
  bpp : Int
  /-- The buffer, its size and the dimensions of the last `init_buffer` call, if any. -/
  initBuffer : Option (Option Nat × Int × Int × Int)
  deriving DecidableEq, Repr

/-- The constructor followed by `init`: no buffer, and 24 bits per pixel, 16 with
`PIXELFORMAT_RGB565`. -/
def GtkAggGlue.init (rgb565 : Bool) : GtkAggGlue :=
  ⟨none, 0, 0, 0, if rgb565 then 16 else 24, none⟩

/-- `realloc(ptr, size)`, the `int` size converted to `size_t`: the new block when it succeeds
(`ok`), `NULL` when it fails. -/
def realloc (ok : Bool) (size : Int) : Option Nat :=
  if ok then some (size % 18446744073709551616).toNat else none

/-- `GtkAggGlue::setRenderHandlerSize(width, height)` without MIT-SHM, `ok` the outcome of its
`realloc`:
```
if (width == _width && height == _height) return;
_width = width; _height = height;
int new_bufsize = width*height*(_bpp/8);
if (new_bufsize > _offscreenbuf_size) {
  new_bufsize = static_cast<int>(new_bufsize / CHUNK_SIZE + 1) * CHUNK_SIZE;
  _offscreenbuf = realloc(_offscreenbuf, new_bufsize);
  if (!_offscreenbuf) { log_msg(...); return; }
  _offscreenbuf_size = new_bufsize;
}
init_buffer(_offscreenbuf, _offscreenbuf_size, _width, _height);
```
with `CHUNK_SIZE` `100*100*(_bpp/8)`. Its asserts, `width > 0`, `height > 0` and a renderer,
are left to the callers. -/
def setRenderHandlerSize (ok : Bool) (width height : Int) (g : GtkAggGlue) : GtkAggGlue :=
  if width = g.width ∧ height = g.height then g
  else
    let g := { g with width, height }
    let chunkSize := 100 * 100 * g.bpp.tdiv 8
    let newBufsize := wrapInt (wrapInt (width * height) * g.bpp.tdiv 8)
    if newBufsize > g.offscreenbufSize then
      let newBufsize := wrapInt ((newBufsize.tdiv chunkSize + 1) * chunkSize)
      match realloc ok newBufsize with
      | none => { g with offscreenbuf := none }
      | some buf =>
        { g with
          offscreenbuf := some buf
          offscreenbufSize := newBufsize
          initBuffer := some (some buf, newBufsize, width, height) }
    else { g with initBuffer := some (g.offscreenbuf, g.offscreenbufSize, width, height) }

/-- The buffer `GtkAggGlue::render` hands to `gdk_draw_rgb_image` without MIT-SHM, and the bytes
it reads from it: `_height` rows of `(int)(_width*_bpp/8)` bytes, `_width*_bpp` an `int`. -/
def render (g : GtkAggGlue) : Option Nat × Int :=
  (g.offscreenbuf, g.height * (wrapInt (g.width * g.bpp)).tdiv 8)

/-- The buffer `GtkAggGlue::render(minx, miny, maxx, maxy)` hands to `gdk_draw_rgb_image` without
MIT-SHM, the offset of the first byte it reads, `miny*(_width*(_bpp/8)) + minx*(_bpp/8)` with
`int` products, and the offset past the last: `maxy-miny+1` rows of `maxx-minx+1` pixels of
`_bpp/8` bytes, `(int)(_width*_bpp/8)` bytes apart. -/
def renderRect (g : GtkAggGlue) (minx miny maxx maxy : Int) : Option Nat × Int × Int :=
  let first := wrapInt (miny * wrapInt (g.width * g.bpp.tdiv 8)) + wrapInt (minx * g.bpp.tdiv 8)
  let rows := wrapInt (maxy - miny + 1)
  let cols := wrapInt (maxx - minx + 1)
  (g.offscreenbuf, first,
    first + (rows - 1) * (wrapInt (g.width * g.bpp)).tdiv 8 + cols * g.bpp.tdiv 8)

/-- A run of resizes, each with the outcome of its `realloc`. -/
def run (calls : List (Bool × Int × Int)) (g : GtkAggGlue) : GtkAggGlue :=
  calls.foldl (fun g c => setRenderHandlerSize c.1 c.2.1 c.2.2 g) g

@[simp] theorem bpp_setRenderHandlerSize (ok : Bool) (width height : Int) (g : GtkAggGlue) :
    (setRenderHandlerSize ok width height g).bpp = g.bpp := by
  unfold setRenderHandlerSize
  split
  · rfl
  · dsimp only
    split
    · split <;> rfl
    · rfl

/-- A resize leaves the width it is given, whether it returns at once or not. -/
@[simp] theorem width_setRenderHandlerSize (ok : Bool) (width height : Int) (g : GtkAggGlue) :
    (setRenderHandlerSize ok width height g).width = width := by
  unfold setRenderHandlerSize
  split
  · next h => exact h.1.symm
  · dsimp only
    split
    · split <;> rfl
    · rfl

/-! ### The invariant -/

/-- What a resize should leave: a buffer of at least `_offscreenbuf_size` bytes, enough for the
dimensions, and the renderer given exactly that buffer, size and dimensions. -/
structure BufferInvariant (g : GtkAggGlue) : Prop where
  /-- `_offscreenbuf` is not `NULL` and holds `_offscreenbuf_size` bytes. -/
  buffer : ∃ buf, g.offscreenbuf = some buf ∧ g.offscreenbufSize ≤ buf
  /-- `_offscreenbuf_size` is at least `_width * _height * (_bpp / 8)`. -/
  size : g.width * g.height * g.bpp.tdiv 8 ≤ g.offscreenbufSize
  /-- The last `init_buffer` call received the buffer, its size and the dimensions. -/
  initBuffer : g.initBuffer = some (g.offscreenbuf, g.offscreenbufSize, g.width, g.height)

/-- The new size of a growing resize is at least the bytes it needs, and fits in an `int` when
they fit with a chunk to spare. -/
theorem chunk_bounds {n c : Int} (hn : 0 ≤ n) (hc : 0 < c) :
    n < (n.tdiv c + 1) * c ∧ (n.tdiv c + 1) * c ≤ n + c := by
  rw [Int.tdiv_eq_ediv hn (by omega), Int.add_mul, Int.one_mul, Int.mul_comm (n / c)]
  have := Int.emod_add_ediv n c
  have := Int.emod_nonneg n (show c ≠ 0 by omega)
  have := Int.emod_lt_of_pos n hc
  omega

theorem bytesPerPixel_eq {g : GtkAggGlue} (hbpp : g.bpp = 16 ∨ g.bpp = 24) :
    g.bpp.tdiv 8 = 2 ∨ g.bpp.tdiv 8 = 3 := by
  rcases hbpp with h | h <;> rw [h] <;> decide

/-- At 16 or 24 bits per pixel, dimensions that fit in an `int` with a chunk to spare give the
byte count of a resize without wrapping. -/
theorem wrapInt_bufsize {g : GtkAggGlue} (hbpp : g.bpp = 16 ∨ g.bpp = 24) {width height : Int}
    (hw : 0 < width) (hh : 0 < height) (hfit : width * height * 3 + 30000 < 2147483648) :
    wrapInt (wrapInt (width * height) * g.bpp.tdiv 8) = width * height * g.bpp.tdiv 8 := by
  have hwh : 0 < width * height := Int.mul_pos hw hh
  rw [wrapInt_of_lt (x := width * height) (by omega) (by omega)]
  rcases bytesPerPixel_eq hbpp with hb | hb <;> rw [hb] <;> exact wrapInt_of_lt (by omega) (by omega)

/-- A resize to new dimensions whose byte count does not exceed `_offscreenbuf_size` keeps the
buffer, whatever it is, and hands it to the renderer with the new dimensions. -/
theorem setRenderHandlerSize_of_le {g : GtkAggGlue} (ok : Bool) {width height : Int}
    (hdim : ¬(width = g.width ∧ height = g.height))
    (hle : wrapInt (wrapInt (width * height) * g.bpp.tdiv 8) ≤ g.offscreenbufSize) :
    setRenderHandlerSize ok width height g =
      { g with width, height, initBuffer := some (g.offscreenbuf, g.offscreenbufSize, width, height) } := by
  rw [setRenderHandlerSize, if_neg hdim]
  exact if_neg (Int.not_lt.mpr hle)

/-- A resize to new dimensions that needs more bytes than `_offscreenbuf_size` sets the invariant up
from any state once its `realloc` succeeds, the old buffer `NULL` or not. -/
theorem bufferInvariant_setRenderHandlerSize_of_lt {g : GtkAggGlue} (hbpp : g.bpp = 16 ∨ g.bpp = 24)
    {width height : Int} (hdim : ¬(width = g.width ∧ height = g.height)) (hw : 0 < width)
    (hh : 0 < height) (hfit : width * height * 3 + 30000 < 2147483648)
    (hlt : g.offscreenbufSize < width * height * g.bpp.tdiv 8) :
    BufferInvariant (setRenderHandlerSize true width height g) := by
  obtain ⟨b, hbv, hb⟩ : ∃ b, g.bpp.tdiv 8 = b ∧ (b = 2 ∨ b = 3) := ⟨_, rfl, bytesPerPixel_eq hbpp⟩
  have hn : 0 < width * height * b ∧ width * height * b ≤ width * height * 3 := by
    have hwh : 0 < width * height := Int.mul_pos hw hh
    rcases hb with rfl | rfl <;> omega
  have hc := chunk_bounds (n := width * height * b) (c := 100 * 100 * b) (by omega)
    (by rcases hb with rfl | rfl <;> decide)
  have hc3 : 100 * 100 * b ≤ 30000 := by rcases hb with rfl | rfl <;> decide
  rw [hbv] at hlt
  rw [setRenderHandlerSize, if_neg hdim]
  dsimp only
  rw [wrapInt_bufsize hbpp hw hh hfit, hbv, if_pos hlt, wrapInt_of_lt (by omega) (by omega)]
  simp only [realloc, if_true]
  exact ⟨⟨_, rfl, by dsimp only; omega⟩, by dsimp only; rw [hbv]; omega, rfl⟩

/-- A resize with a successful `realloc`, positive dimensions and a byte count that fits in an
`int` with a chunk to spare keeps the invariant, and sets it up from the state after `init`. -/
theorem bufferInvariant_setRenderHandlerSize {g : GtkAggGlue} (rgb565 : Bool)
    (hg : BufferInvariant g ∨ g = .init rgb565) (hbpp : g.bpp = (GtkAggGlue.init rgb565).bpp)
    {width height : Int} (hw : 0 < width) (hh : 0 < height)
    (hfit : width * height * 3 + 30000 < 2147483648) :
    BufferInvariant (setRenderHandlerSize true width height g) := by
  have hbpp' : g.bpp = 16 ∨ g.bpp = 24 := by rw [hbpp]; cases rgb565 <;> decide
  by_cases hdim : width = g.width ∧ height = g.height
  · rw [setRenderHandlerSize, if_pos hdim]
    rcases hg with hg | rfl
    · exact hg
    · exact absurd hdim.1 (by simp only [GtkAggGlue.init]; omega)
  by_cases hlt : g.offscreenbufSize < width * height * g.bpp.tdiv 8
  · exact bufferInvariant_setRenderHandlerSize_of_lt hbpp' hdim hw hh hfit hlt
  · -- the buffer is large enough already: it is kept
    rw [setRenderHandlerSize_of_le true hdim (by rw [wrapInt_bufsize hbpp' hw hh hfit]; omega)]
    rcases hg with hg | rfl
    · exact ⟨hg.buffer, by dsimp only; omega, rfl⟩
    · have : 0 < width * height * (GtkAggGlue.init rgb565).bpp.tdiv 8 :=
        Int.mul_pos (Int.mul_pos hw hh) (by rcases bytesPerPixel_eq hbpp' with h | h <;> omega)
      exact absurd this hlt

/-- At 16 or 24 bits per pixel a row of `(int)(_width*_bpp/8)` bytes is `_width` pixels of
`_bpp/8` bytes, when `_width*_bpp` fits in an `int`. -/
theorem rowBytes_eq {g : GtkAggGlue} (hbpp : g.bpp = 16 ∨ g.bpp = 24) (hw : 0 ≤ g.width)
    (hstride : g.width * g.bpp < 2147483648) :
    (wrapInt (g.width * g.bpp)).tdiv 8 = g.width * g.bpp.tdiv 8 := by
  rw [wrapInt_of_lt (by have := Int.mul_nonneg hw (show 0 ≤ g.bpp by omega); omega) hstride]
  rcases hbpp with hb | hb <;> rw [hb]
  · rw [show g.width * 16 = g.width * 2 * 8 by omega, Int.mul_tdiv_cancel _ (by decide)]; rfl
  · rw [show g.width * 24 = g.width * 3 * 8 by omega, Int.mul_tdiv_cancel _ (by decide)]; rfl

/-- With the invariant, `render` reads inside the buffer when a row fits in an `int`: `_height`
rows of `_width * _bpp / 8` bytes are at most `_offscreenbuf_size` bytes. -/
theorem render_le_of_bufferInvariant {g : GtkAggGlue} (h : BufferInvariant g)
    (hbpp : g.bpp = 16 ∨ g.bpp = 24) (hw : 0 ≤ g.width) (hstride : g.width * g.bpp < 2147483648) :
    ∃ buf, (render g).1 = some buf ∧ (render g).2 ≤ buf := by
  obtain ⟨buf, hbuf, hsize⟩ := h.buffer
  refine ⟨buf, hbuf, ?_⟩
  have := h.size
  rw [render, rowBytes_eq hbpp hw hstride, ← Int.mul_assoc, Int.mul_comm g.height g.width]
  omega

/-- The bytes of a rectangle with `maxx < W` and `maxy < H`, read in rows `W * b` bytes apart from
its first pixel, end within `W * H` pixels of `b` bytes. -/
theorem rect_end_le (minx miny : Int) {W H b maxx maxy : Int} (hb : 0 ≤ b) (hW : 0 ≤ W) (hx : maxx < W)
    (hy : maxy < H) :
    miny * (W * b) + minx * b + (maxy - miny) * (W * b) + (maxx - minx + 1) * b ≤ W * H * b := by
  have e : miny * (W * b) + minx * b + (maxy - miny) * (W * b) + (maxx - minx + 1) * b =
      (maxy * W + maxx + 1) * b := by
    rw [Int.sub_mul, Int.add_mul, Int.add_mul, Int.sub_mul, Int.add_mul, Int.mul_assoc]
    omega
  have hrow : maxy * W ≤ (H - 1) * W := Int.mul_le_mul_of_nonneg_right (by omega) hW
  rw [Int.sub_mul, Int.one_mul] at hrow
  rw [e, Int.mul_comm W H]
  exact Int.mul_le_mul_of_nonneg_right (by omega) hb

/-- The `int` products of the partial `render` of a rectangle inside the frame do not wrap when
a row and the frame fit in an `int`: the offset of the first pixel, and the rectangle's
dimensions. -/
theorem renderRect_eq {g : GtkAggGlue} (hbpp : g.bpp = 16 ∨ g.bpp = 24)
    (hstride : g.width * g.bpp < 2147483648)
    (hframe : g.width * g.height * g.bpp.tdiv 8 < 2147483648) {minx miny maxx maxy : Int}
    (hx : 0 ≤ minx ∧ minx ≤ maxx ∧ maxx < g.width) (hy : 0 ≤ miny ∧ miny ≤ maxy ∧ maxy < g.height) :
    renderRect g minx miny maxx maxy = (g.offscreenbuf,
      miny * (g.width * g.bpp.tdiv 8) + minx * g.bpp.tdiv 8,
      miny * (g.width * g.bpp.tdiv 8) + minx * g.bpp.tdiv 8 + (maxy - miny) * (g.width * g.bpp.tdiv 8) +
        (maxx - minx + 1) * g.bpp.tdiv 8) := by
  obtain ⟨b, hbv, hb⟩ : ∃ b, g.bpp.tdiv 8 = b ∧ (b = 2 ∨ b = 3) := ⟨_, rfl, bytesPerPixel_eq hbpp⟩
  have hW : 0 ≤ g.width := by omega
  have hWb : g.width * b ≤ g.width * g.bpp :=
    Int.mul_le_mul_of_nonneg_left (by rcases hbpp with e | e <;> omega) hW
  have hW1 : g.width ≤ g.width * b := by
    have := Int.mul_le_mul_of_nonneg_left (show 1 ≤ b by omega) hW
    rwa [Int.mul_one] at this
  -- the rows before the last one of the frame, and the columns before the last one of a row
  have hrow : miny * (g.width * b) + g.width * b ≤ g.width * g.height * b := by
    have := Int.mul_le_mul_of_nonneg_right (show miny + 1 ≤ g.height by omega)
      (Int.mul_nonneg hW (show 0 ≤ b by omega))
    rwa [Int.add_mul, Int.one_mul, ← Int.mul_assoc g.height, Int.mul_comm g.height g.width] at this
  have hcol : minx * b + b ≤ g.width * b := by
    have := Int.mul_le_mul_of_nonneg_right (show minx + 1 ≤ g.width by omega) (show 0 ≤ b by omega)
    rwa [Int.add_mul, Int.one_mul] at this
  have hH : g.height ≤ g.width * g.height * b := by
    have := Int.mul_le_mul_of_nonneg_right (show 1 ≤ g.width * b by omega) (show 0 ≤ g.height by omega)
    rwa [Int.one_mul, Int.mul_right_comm] at this
  have h₁ := Int.mul_nonneg hy.1 (Int.mul_nonneg hW (show 0 ≤ b by omega))
  have h₂ := Int.mul_nonneg hx.1 (show 0 ≤ b by omega)
  rw [← hbv] at hrow hcol hW1 hWb h₁ h₂ hH
  simp only [renderRect]
  rw [wrapInt_of_lt (x := g.width * _) (by omega) (by omega),
    wrapInt_of_lt (x := miny * _) (by omega) (by omega),
    wrapInt_of_lt (x := minx * _) (by omega) (by omega),
    wrapInt_of_lt (x := maxy - miny + 1) (by omega) (by omega),
    wrapInt_of_lt (x := maxx - minx + 1) (by omega) (by omega), rowBytes_eq hbpp hW hstride,
    Int.add_sub_cancel]

/-- With the invariant, the partial `render` of a rectangle inside the frame reads inside the
buffer when a row and the frame fit in an `int`: from the rectangle's first pixel, at a
nonnegative offset, to the end of its last row. -/
theorem renderRect_le_of_bufferInvariant {g : GtkAggGlue} (h : BufferInvariant g)
    (hbpp : g.bpp = 16 ∨ g.bpp = 24) (hstride : g.width * g.bpp < 2147483648)
    (hframe : g.width * g.height * g.bpp.tdiv 8 < 2147483648) {minx miny maxx maxy : Int}
    (hx : 0 ≤ minx ∧ minx ≤ maxx ∧ maxx < g.width) (hy : 0 ≤ miny ∧ miny ≤ maxy ∧ maxy < g.height) :
    ∃ buf, (renderRect g minx miny maxx maxy).1 = some buf ∧
      0 ≤ (renderRect g minx miny maxx maxy).2.1 ∧ (renderRect g minx miny maxx maxy).2.2 ≤ buf := by
  obtain ⟨buf, hbuf, hsize⟩ := h.buffer
  have hb : 0 ≤ g.bpp.tdiv 8 := by rcases hbpp with hb | hb <;> rw [hb] <;> decide
  have hW : 0 ≤ g.width := by omega
  have hend := rect_end_le minx miny hb hW hx.2.2 hy.2.2
  have := h.size
  rw [renderRect_eq hbpp hstride hframe hx hy]
  refine ⟨buf, hbuf, ?_, by dsimp only; omega⟩
  exact Int.add_nonneg (Int.mul_nonneg hy.1 (Int.mul_nonneg hW hb)) (Int.mul_nonneg hx.1 hb)

/-- A 640 by 480 frame after one resize from `init`, and the rectangle from `(10, 20)` to
`(100, 200)`. -/
theorem renderRect_le_after_resize :
    ∃ buf, (renderRect (setRenderHandlerSize true 640 480 (.init false)) 10 20 100 200).1 = some buf ∧
      0 ≤ (renderRect (setRenderHandlerSize true 640 480 (.init false)) 10 20 100 200).2.1 ∧
      (renderRect (setRenderHandlerSize true 640 480 (.init false)) 10 20 100 200).2.2 ≤ buf :=
  renderRect_le_of_bufferInvariant
    (bufferInvariant_setRenderHandlerSize false (.inr rfl) rfl (by decide) (by decide) (by decide))
    (by decide) (by decide) (by decide) (by decide) (by decide)

/-- From the state after `init`, every run of resizes whose `realloc`s all succeed, with
positive dimensions and byte counts that fit in an `int` with a chunk to spare, leaves the
invariant after each resize; when a row of each width fits in an `int` as well, `render` then
reads inside the buffer. -/
theorem run_bufferInvariant (rgb565 : Bool) (calls : List (Int × Int)) (hne : calls ≠ [])
    (hcalls : ∀ c ∈ calls, 0 < c.1 ∧ 0 < c.2 ∧ c.1 * c.2 * 3 + 30000 < 2147483648 ∧
      c.1 * (GtkAggGlue.init rgb565).bpp < 2147483648) :
    BufferInvariant (run (calls.map fun c => (true, c.1, c.2)) (.init rgb565)) ∧
      ∃ buf, (render (run (calls.map fun c => (true, c.1, c.2)) (.init rgb565))).1 = some buf ∧
        (render (run (calls.map fun c => (true, c.1, c.2)) (.init rgb565))).2 ≤ buf := by
  suffices h : ∀ g, (BufferInvariant g ∨ g = .init rgb565) → g.bpp = (GtkAggGlue.init rgb565).bpp →
      let g' := run (calls.map fun c => (true, c.1, c.2)) g
      BufferInvariant g' ∧ g'.bpp = (GtkAggGlue.init rgb565).bpp ∧ 0 < g'.width ∧
        g'.width * (GtkAggGlue.init rgb565).bpp < 2147483648 by
    obtain ⟨hinv, hbpp, hw, hstride⟩ := h _ (.inr rfl) rfl
    rw [← hbpp] at hstride
    exact ⟨hinv, render_le_of_bufferInvariant hinv (by rw [hbpp]; cases rgb565 <;> decide)
      (by omega) hstride⟩
  induction calls with
  | nil => exact absurd rfl hne
  | cons c cs ih =>
    intro g hg hbpp
    obtain ⟨hw, hh, hfit, hstride⟩ := hcalls c (List.mem_cons_self c cs)
    have hstep := bufferInvariant_setRenderHandlerSize rgb565 hg hbpp hw hh hfit
    have hbpp' : (setRenderHandlerSize true c.1 c.2 g).bpp = (GtkAggGlue.init rgb565).bpp := by
      rw [bpp_setRenderHandlerSize, hbpp]
    cases cs with
    | nil => exact ⟨hstep, hbpp', by simpa [run] using hw, by simpa [run] using hstride⟩
    | cons c' cs =>
      exact ih (List.cons_ne_nil _ _) (fun c hc => hcalls c (List.mem_cons_of_mem _ hc)) _
        (.inl hstep) hbpp'

theorem run_bufferInvariant_two_sizes :
    BufferInvariant (run [(true, 640, 480), (true, 800, 600)] (.init false)) ∧
      ∃ buf, (render (run [(true, 640, 480), (true, 800, 600)] (.init false))).1 = some buf ∧
        (render (run [(true, 640, 480), (true, 800, 600)] (.init false))).2 ≤ buf :=
  run_bufferInvariant false [(640, 480), (800, 600)] (by decide) (by decide)

/-- A row of `10 ^ 8` pixels of 24 bits does not fit in an `int`: `render` after a resize to
`10 ^ 8` by 2 reads rows of a negative number of bytes. -/
example : (render (setRenderHandlerSize true 100000000 2 (.init false))).2 < 0 := by decide

/-- After a failed `realloc` the buffer is `NULL` with the new dimensions recorded; a resize to the
same dimensions returns at once, and `render` reads `100 * 100 * 3` bytes from `NULL`. -/
theorem setRenderHandlerSize_realloc_fails :
    (setRenderHandlerSize false 100 100 (.init false)).offscreenbuf = none ∧
      render (setRenderHandlerSize true 100 100 (setRenderHandlerSize false 100 100 (.init false))) =
        (none, 30000) := by
  decide

end Gnash.Gui
