import DemandRouting.OpenRtb.Codec
import DemandRouting.Proofs.Json.Proper

namespace DemandRouting.OpenRtb

open Codec

@[simp] theorem Format.shape_total : Format.shape.codec.Total :=
  Shape.total (by decide) fun r => by simp [Format.shape]

@[simp] theorem Banner.shape_total : Banner.shape.codec.Total :=
  Shape.total (by decide) fun r => by simp [Banner.shape]

@[simp] theorem Video.shape_total : Video.shape.codec.Total :=
  Shape.total (by decide) fun r => by simp [Video.shape]

@[simp] theorem Native.shape_total : Native.shape.codec.Total :=
  Shape.total (by decide) fun r => by simp [Native.shape]

@[simp] theorem Audio.shape_total : Audio.shape.codec.Total :=
  Shape.total (by decide) fun r => by simp [Audio.shape]

def Imp.HasFiniteFloor (i : Imp) : Prop := ∀ x ∈ i.bidfloor, x.isFinite = true

theorem Imp.shape_faithful : Imp.shape.codec.Faithful Imp.HasFiniteFloor :=
  Shape.faithful (by decide) fun i hi => by
    simp [Imp.shape, Shape.restore_of (option_faithful double_faithful double_present) hi]

theorem Imp.shape_sound : Imp.shape.codec.Sound Imp.HasFiniteFloor := by
  have hblank : Imp.HasFiniteFloor {} := nofun
  refine Shape.sound (p := Imp.HasFiniteFloor) hblank ?_
  simp only [Imp.shape, List.forall_mem_cons, List.not_mem_nil, false_implies, implies_true,
    and_true]
  and_intros
  -- the property looks at the floor only
  all_goals first
    | exact Field.keeps_untouched fun _ _ h => h
    | exact Field.keeps_of (option_sound double_sound) fun _ _ h _ => h

@[simp] theorem Publisher.shape_total : Publisher.shape.codec.Total :=
  Shape.total (by decide) fun r => by simp [Publisher.shape]

@[simp] theorem Content.shape_total : Content.shape.codec.Total :=
  Shape.total (by decide) fun r => by simp [Content.shape]

@[simp] theorem SiteExtData.shape_total : SiteExtData.shape.codec.Total :=
  Shape.total (by decide) fun r => by simp [SiteExtData.shape]

@[simp] theorem SiteExt.shape_total : SiteExt.shape.codec.Total :=
  Shape.total (by decide) fun r => by simp [SiteExt.shape]

@[simp] theorem Site.shape_total : Site.shape.codec.Total :=
  Shape.total (by decide) fun r => by simp [Site.shape]

@[simp] theorem App.shape_total : App.shape.codec.Total :=
  Shape.total (by decide) fun r => by simp [App.shape]

@[simp] theorem Geo.shape_total : Geo.shape.codec.Total :=
  Shape.total (by decide) fun r => by simp [Geo.shape]

@[simp] theorem Device.shape_total : Device.shape.codec.Total :=
  Shape.total (by decide) fun r => by simp [Device.shape]

@[simp] theorem Uid.shape_total : Uid.shape.codec.Total :=
  Shape.total (by decide) fun r => by simp [Uid.shape]

@[simp] theorem Eid.shape_total : Eid.shape.codec.Total :=
  Shape.total (by decide) fun r => by simp [Eid.shape]

@[simp] theorem UserExt.shape_total : UserExt.shape.codec.Total :=
  Shape.total (by decide) fun r => by simp [UserExt.shape]

@[simp] theorem User.shape_total : User.shape.codec.Total :=
  Shape.total (by decide) fun r => by simp [User.shape]

@[simp] theorem RegsExt.shape_total : RegsExt.shape.codec.Total :=
  Shape.total (by decide) fun r => by simp [RegsExt.shape]

@[simp] theorem Regs.shape_total : Regs.shape.codec.Total :=
  Shape.total (by decide) fun r => by simp [Regs.shape]

def BidRequest.HasFiniteFloors (r : BidRequest) : Prop := ∀ i ∈ r.imp, i.HasFiniteFloor

theorem BidRequest.shape_faithful : BidRequest.shape.codec.Faithful BidRequest.HasFiniteFloors :=
  Shape.faithful (by decide) fun r hr => by
    simp [BidRequest.shape, Shape.restore_of (list_faithful Imp.shape_faithful) hr]

theorem BidRequest.shape_sound : BidRequest.shape.codec.Sound BidRequest.HasFiniteFloors := by
  have hblank : BidRequest.HasFiniteFloors {} := List.forall_mem_nil _
  refine Shape.sound (p := BidRequest.HasFiniteFloors) hblank ?_
  simp only [BidRequest.shape, List.forall_mem_cons, List.not_mem_nil, false_implies, implies_true,
    and_true]
  and_intros
  all_goals first
    | exact Field.keeps_untouched fun _ _ h => h
    | exact Field.keeps_of (list_sound Imp.shape_sound) fun _ _ h _ => h

-- A request with finite floors is read back as it was written, and so is every request that was
-- read from a JSON value, whatever the value leaves out, gives as `null` or adds.
theorem BidRequest.shape_roundTrips :
    (∀ r : BidRequest, r.HasFiniteFloors →
      BidRequest.shape.read (BidRequest.shape.write r) = some r) ∧
    ∀ (v : Json) (r : BidRequest), v.Proper → BidRequest.shape.read v = some r →
      BidRequest.shape.read (BidRequest.shape.write r) = some r := by
  constructor
  · intro r hr
    exact Shape.read_write_of_faithful BidRequest.shape_faithful hr
  · intro v r hv hread
    have hr : r.HasFiniteFloors := BidRequest.shape_sound v r hv hread
    exact Shape.read_write_of_faithful BidRequest.shape_faithful hr

theorem BidRequest.shape_roundTrips_partialRequest :
    let banner : Banner := { format := [{ w := 300, h := 250 }], pos := some (-1) }
    let imp : Imp := { id := "1", banner := some banner, bidfloor := some 0.5 }
    let user : User := { eids := [{ source := "a.example", uids := [{ id := "u" }] }] }
    let whole : BidRequest := {
      id := "r", imp := [imp], user := some user, regs := some { gppSid := [2, 6] } }
    let sparse : Json := .object [
      ("at", .int 1),
      ("imp", .list [.object [("video", .null), ("bidfloor", .int 2)]])]
    let read : BidRequest := { imp := [{ bidfloor := some 2.0 }] }
    BidRequest.shape.read (BidRequest.shape.write whole) = some whole ∧
    BidRequest.shape.read sparse = some read ∧
    BidRequest.shape.read (BidRequest.shape.write read) = some read := by
  intro banner imp user whole sparse read
  have hwhole : whole.HasFiniteFloors := by
    intro i hi x hx
    obtain rfl := List.mem_singleton.mp hi
    obtain rfl := Option.some.inj hx
    rfl
  have hone : (Json.int 1).Proper := .int (by decide) (by decide)
  have htwo : (Json.int 2).Proper := .int (by decide) (by decide)
  have himp : (Json.object [("video", .null), ("bidfloor", .int 2)]).Proper :=
    .object (by simp [Json.Proper.null, htwo])
  have hsparse : sparse.Proper := .object (by simp [hone, Json.Proper.list, himp])
  have hread : BidRequest.shape.read sparse = some read := rfl
  exact ⟨BidRequest.shape_roundTrips.1 whole hwhole, hread,
    BidRequest.shape_roundTrips.2 sparse read hsparse hread⟩

end DemandRouting.OpenRtb
