import AudioSets.Group
import AudioSets.Device
import AudioSets.Json.Code
import AudioSets.Lock.Status

namespace AudioSets

open Json

instance : JsonCode Uuid where
  toJson u := ofString u.text
  ofJson? v := v.toString?.bind Uuid.ofText?

instance : JsonCode Device where
  toJson d := ofString d.address
  ofJson? v := v.toString?.map Device.mk

instance : JsonCode LinkState where
  toJson s := ofString s.name
  ofJson? v := v.unitVariant?.bind LinkState.ofName?

instance : JsonCode Bond where
  toJson s := ofString s.name
  ofJson? v := v.unitVariant?.bind Bond.ofName?

instance : JsonCode Policy where
  toJson p := ofString p.name
  ofJson? v := v.unitVariant?.bind Policy.ofName?

instance : JsonCode Direction where
  toJson d := ofString d.name
  ofJson? v := v.unitVariant?.bind Direction.ofName?

instance : JsonCode Group.Status where
  toJson s := ofString s.name
  ofJson? v := v.unitVariant?.bind Group.Status.ofName?

instance : JsonCode Group.NodeChange where
  toJson s := ofString s.name
  ofJson? v := v.unitVariant?.bind Group.NodeChange.ofName?

instance : JsonCode Contexts where
  toJson c := ofNat c.bits.toNat
  ofJson? v := v.toUInt32?.map Contexts.mk

instance : JsonCode Group.Id where
  toJson g := ofInt g.number.toInt
  ofJson? v := v.toInt32?.map Group.Id.mk

instance : JsonCode SetId where
  toJson i := JsonCode.toJson i.uuid
  ofJson? v := (JsonCode.ofJson? v).map SetId.mk

instance : JsonCode Lock.Token where
  toJson t := JsonCode.toJson t.id
  ofJson? v := (JsonCode.ofJson? v).map Lock.Token.mk

def Lock.Status.ofVariant? : String × Option Json → Option Lock.Status
  | (name, some v) =>
    if name = "Unknown" then v.toInt32?.map .unknown
    else
      match v with
      | .null => Lock.Status.ofName? name
      | _ => none
  | (name, none) => Lock.Status.ofName? name

instance : JsonCode Lock.Status where
  toJson
    | .unknown n => ofFields [("Unknown", ofInt n.toInt)]
    | s => ofString s.name
  ofJson? v := v.variant?.bind Lock.Status.ofVariant?

def Group.State.fieldNames : List String := ["is_connected", "is_active", "active_contexts"]

def Group.State.ofFields? : List (Option Json) → Option Group.State
  | [some connected, some active, some contexts] =>
    match connected.toBool?, active.toBool?, (JsonCode.ofJson? contexts : Option Contexts) with
    | some c, some a, some m => some ⟨c, a, m⟩
    | _, _, _ => none
  | _ => none

instance : JsonCode Group.State where
  toJson d := ofFields [("is_connected", .bool d.isConnected), ("is_active", .bool d.isActive),
    ("active_contexts", JsonCode.toJson d.contexts)]
  ofJson? v := (v.fields? Group.State.fieldNames).bind Group.State.ofFields?

end AudioSets
