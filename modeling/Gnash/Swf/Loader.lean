import Gnash.Swf.RoundTrip

/-!
# `PlaceObject2Tag::loader`: the depth a place-object tag registers

The loader reads a tag with `PlaceObject2Tag::read` (`Gnash.Swf.read`), hands it to the movie
definition, and registers its depth as a timeline depth when it lies in the static depth zone,
`depth < 0 && depth >= character::staticDepthOffset`. The readers set the depth once, from a `u16`
shifted by `staticDepthOffset`, and nothing read later changes it; this is proved with the rules
of `Gnash.Swf.Ensures` from `Gnash.Swf.Stream`, one per construct of the readers' `do` blocks. So
the second half of the test always holds, and the loader registers exactly the negative depths
(`Gnash.Swf.loader_timelineDepth`).

## Main definitions

* `Gnash.Swf.loader`, `Gnash.Swf.IsTagDepth`.

## Main results

* `Gnash.Swf.read_depth` — every tag `read` returns has a `u16` depth shifted by
  `staticDepthOffset`.
* `Gnash.Swf.loader_timelineDepth`.

Source: `src/server/swf/PlaceObject2Tag.cpp`, lines 403-429.
-/

namespace Gnash.Swf

variable {Mtx Cxf : Type}

/-! ### The depth of a tag read -/

/-- The depth a place-object record gives: a `u16` plus `character::staticDepthOffset`. -/
def IsTagDepth (ext : Externals Mtx Cxf) (depth : Int) : Prop :=
  ∃ d : Nat, d < 2 ^ 16 ∧ depth = d + ext.staticDepthOffset

theorem readPlaceActions_depth (ext : Externals Mtx Cxf) (tag : PlaceObject2Tag Mtx Cxf)
    (movieVersion : Int) : Ensures (readPlaceActions ext tag movieVersion) (·.depth = tag.depth) :=
  ensures_bind (ensures_any _) fun _ _ => ensures_bind (ensures_any _) fun _ _ =>
    ensures_bind (ensures_any _) fun _ _ => ensures_pure rfl

theorem readPlaceObject_depth (ext : Externals Mtx Cxf) (tag : PlaceObject2Tag Mtx Cxf) :
    Ensures (readPlaceObject ext tag) (IsTagDepth ext ·.depth) :=
  ensures_bind (ensures_any _) fun _ _ => ensures_bind readU16_ensures fun d hd =>
    ensures_bind (ensures_any _) fun _ _ => ensures_bind (ensures_any _) fun _ _ =>
    ensures_bind (ensures_any _) fun _ _ =>
    ensures_ite (fun _ => ensures_bind (ensures_any _) fun _ _ => ensures_pure ⟨d, hd, rfl⟩)
      fun _ => ensures_pure ⟨d, hd, rfl⟩

/-- `readPlaceObject2` sets the depth once, from the `u16` after the flags; no later field, and
not the event loop, changes it. -/
theorem readPlaceObject2_depth (ext : Externals Mtx Cxf) (tag : PlaceObject2Tag Mtx Cxf)
    (movieVersion : Int) (place2 : Bool) :
    Ensures (readPlaceObject2 ext tag movieVersion place2) (IsTagDepth ext ·.depth) := by
  unfold readPlaceObject2
  refine ensures_bind (ensures_any _) fun f _ => ensures_bind readU16_ensures fun d hd => ?_
  let R : PlaceObject2Tag Mtx Cxf → Prop := (·.depth = d + ext.staticDepthOffset)
  -- the character id, matrix, colour transform, ratio, name and clip depth keep it
  refine ensures_ite_field (R := R) (fun _ => rfl) rfl
    fun t₁ h₁ => ensures_ite_field (R := R) (fun _ => h₁) h₁
    fun t₂ h₂ => ensures_ite_field (R := R) (fun _ => h₂) h₂
    fun t₃ h₃ => ensures_ite_field (R := R) (fun _ => h₃) h₃
    fun t₄ h₄ => ensures_ite_field (R := R) (fun _ => h₄) h₄
    fun t₅ h₅ => ensures_ite_field (R := R) (fun _ => h₅) h₅
    fun t₆ h₆ => ?_
  -- the filters, blend mode and bitmap-caching byte are dropped, the event loop keeps it
  exact ensures_ite_bind (R := fun _ => True) (fun _ => ensures_any _) (fun _ => trivial)
    fun _ _ => ensures_ite_bind (R := fun _ => True) (fun _ => ensures_any _) (fun _ => trivial)
    fun _ _ => ensures_ite_bind (R := fun _ => True) (fun _ => ensures_any _) (fun _ => trivial)
    fun _ _ => ensures_ite_bind (R := R)
      (fun _ s t s' h => (readPlaceActions_depth ext t₆ movieVersion s t s' h).trans h₆) (fun _ => h₆)
    fun _ h₇ => ensures_pure ⟨d, hd, h₇⟩

theorem read_depth (ext : Externals Mtx Cxf) (tag : PlaceObject2Tag Mtx Cxf) (tagType : TagType)
    (movieVersion : Int) : Ensures (read ext tag tagType movieVersion) (IsTagDepth ext ·.depth) :=
  ensures_ite (fun _ => readPlaceObject_depth ext _) fun _ => readPlaceObject2_depth ext _ _ _

/-- `PlaceObject2Tag::loader`: the tag read into the constructor's fields `tag`, which the movie
definition keeps (`add_execute_tag`), and the depth it registers with `addTimelineDepth`:
```
int depth = ch->getDepth();
if ( depth < 0 && depth >= character::staticDepthOffset ) m->addTimelineDepth(depth);
else log_debug(...);
```
The assertion on the tag type is the type `TagType`. -/
def loader (ext : Externals Mtx Cxf) (tag : PlaceObject2Tag Mtx Cxf) (tagType : TagType)
    (movieVersion : Int) : Reader (PlaceObject2Tag Mtx Cxf × Option Int) := do
  let ch ← read ext tag tagType movieVersion
  let depth := ch.depth
  if depth < 0 ∧ depth ≥ ext.staticDepthOffset then pure (ch, some depth) else pure (ch, none)

/-- Every tag the loader reads has a `u16` depth shifted by `staticDepthOffset`, so the second
half of its test always holds: the loader registers the depth of a tag exactly when it is
negative. -/
theorem loader_timelineDepth (ext : Externals Mtx Cxf) (tag : PlaceObject2Tag Mtx Cxf)
    (tagType : TagType) (movieVersion : Int) (s s' : Stream) (ch : PlaceObject2Tag Mtx Cxf)
    (timelineDepth : Option Int)
    (h : (loader ext tag tagType movieVersion).run s = .ok ((ch, timelineDepth), s')) :
    IsTagDepth ext ch.depth ∧ timelineDepth = if ch.depth < 0 then some ch.depth else none := by
  have hloader : Ensures (loader ext tag tagType movieVersion) fun r =>
      IsTagDepth ext r.1.depth ∧ r.2 = if r.1.depth < 0 then some r.1.depth else none := by
    refine ensures_bind (read_depth ext tag tagType movieVersion) fun t ht => ?_
    refine ensures_ite (fun hd => ensures_pure ⟨ht, ?_⟩) fun hd => ensures_pure ⟨ht, ?_⟩
    · exact (if_pos hd.1).symm
    · obtain ⟨d, -, hdepth⟩ := ht
      exact (if_neg fun hneg => hd ⟨hneg, by omega⟩).symm
  exact hloader s _ s' h

/-- An original `PLACEOBJECT` tag at depth 2 of the zone: its depth, `2 - 16384`, is registered. -/
theorem loader_timelineDepth_placeObject :
    IsTagDepth sampleExternals (-16382) ∧
      (some (-16382) : Option Int) = if (-16382 : Int) < 0 then some (-16382) else none :=
  loader_timelineDepth sampleExternals freshTag .placeObject 6 ⟨[1, 0, 2, 0, 7, 9], 0, 6⟩
    ⟨[1, 0, 2, 0, 7, 9], 48, 6⟩
    { freshTag with characterId := 1, depth := -16382, matrix := 7, colorTransform := 9 }
    (some (-16382)) rfl

end Gnash.Swf
