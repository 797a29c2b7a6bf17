import QuadMosaic.Proofs.Overlay

/-!
# The laws of layers

Options that are merged in layers do not depend on how the layers are grouped, and a layer that is
laid twice counts once.  Main statement: `Fields.merge_is_overlay`.

Objects without repeated keys are equal when they have the same keys in the same order and the same
value under each (`Fields.ext_of_get?`), so each law is one of the places of keys and one of the
value under a key.  The first kind holds of all layers; the second kind is inherited from what is
done under one key (`Fields.layer_layer`), where the members of a group are layers themselves.
-/

namespace QuadMosaic

namespace Fields

variable {a b c : Fields} {key : String}

/-! ## Objects told by their keys and values -/

theorem ext_of_get? (ha : (keys a).Nodup) (hkeys : keys a = keys b)
    (hget : ∀ key, get? a key = get? b key) : a = b := by
  induction a generalizing b with
  | nil => exact (List.map_eq_nil_iff.1 hkeys.symm).symm
  | cons f rest ih =>
    obtain ⟨k, v⟩ := f
    obtain ⟨hk, hrest⟩ := List.nodup_cons.1 ha
    obtain ⟨⟨k', v'⟩, rest', rfl, rfl, hkeys'⟩ := List.map_eq_cons_iff.1 hkeys.symm
    have hv : v = v' := by simpa [get?_cons] using hget k'
    subst hv
    refine congrArg _ (ih hrest hkeys'.symm fun key ↦ ?_)
    by_cases heq : k' = key
    · subst heq
      have hk' : k' ∉ keys rest' := by
        rw [show keys rest' = keys rest from hkeys']
        exact hk
      rw [get?_eq_none_of_not_mem hk, get?_eq_none_of_not_mem hk']
    · simpa [get?_cons, heq] using hget key

/-! ## Layers of layers -/

section

variable {combine : String → Option Json → Json → Json}

theorem mem_keys_layer (hb : (keys b).Nodup) :
    key ∈ keys (layer combine a b) ↔ key ∈ keys a ∨ key ∈ keys b := by
  rw [keys_layer combine hb, List.mem_append, List.mem_filter, decide_eq_true_iff]
  tauto

theorem nodup_keys_layer (combine : String → Option Json → Json → Json) (ha : (keys a).Nodup)
    (hb : (keys b).Nodup) : (keys (layer combine a b)).Nodup := by
  rw [keys_layer combine hb]
  refine ha.append (hb.filter _) fun key hkey hkey' ↦ ?_
  simp only [List.mem_filter, decide_eq_true_iff] at hkey'
  exact hkey'.2 hkey

/-- Under a key of its own, what is laid over nothing is as it was. -/
theorem nil_layer (hnone : ∀ key value, combine key none value = value) (hb : (keys b).Nodup) :
    layer combine [] b = b := by
  refine ext_of_get? (nodup_keys_layer combine List.nodup_nil hb) ?_ fun key ↦ ?_
  · rw [keys_layer combine hb]
    simp [keys]
  · rw [get?_layer combine hb, get?_nil, Option.or_none]
    exact (Option.map_congr fun value _ ↦ hnone key value).trans Option.map_id'

/-- A layer that is laid twice counts once, if it does so under each of its keys. -/
theorem layer_layer_self (ha : (keys a).Nodup) (hb : (keys b).Nodup)
    (hself : ∀ key value, get? b key = some value →
      combine key (some (combine key (get? a key) value)) value =
        combine key (get? a key) value) :
    layer combine (layer combine a b) b = layer combine a b := by
  have hab := nodup_keys_layer combine ha hb
  refine ext_of_get? (nodup_keys_layer combine hab hb) ?_ fun key ↦ ?_
  · have hnew : ((keys b).filter fun key ↦ key ∉ keys (layer combine a b)) = [] :=
      List.filter_eq_nil_iff.2 fun key hkey ↦ by simp [mem_keys_layer hb, hkey]
    rw [keys_layer combine hb (layer combine a b), hnew, List.append_nil]
  · rw [get?_layer combine hb, get?_layer combine hb]
    cases hvalue : get? b key with
    | none => rfl
    | some value => simp [hself key value hvalue]

/-- Layers may be grouped at will, if they may so under each key. -/
theorem layer_layer (ha : (keys a).Nodup) (hb : (keys b).Nodup) (hc : (keys c).Nodup)
    (hnone : ∀ key value, combine key none value = value)
    (hassoc : ∀ key v w, get? b key = some v → get? c key = some w →
      combine key (some (combine key (get? a key) v)) w =
        combine key (get? a key) (combine key (some v) w)) :
    layer combine (layer combine a b) c = layer combine a (layer combine b c) := by
  have hab := nodup_keys_layer combine ha hb
  have hbc := nodup_keys_layer combine hb hc
  refine ext_of_get? (nodup_keys_layer combine hab hc) ?_ fun key ↦ ?_
  · rw [keys_layer combine hc, keys_layer combine hbc, keys_layer combine hb,
      keys_layer combine hc, List.filter_append, List.filter_filter, List.append_assoc]
    congr 2
    refine List.filter_congr fun key _ ↦ ?_
    by_cases h : key ∈ keys a <;> simp [h]
  · rw [get?_layer combine hc, get?_layer combine hbc, get?_layer combine hb,
      get?_layer combine hc]
    cases hw : get? c key with
    | none => cases get? b key <;> rfl
    | some w =>
      cases hv : get? b key with
      | none => simp [hnone]
      | some v => simp [hassoc key v w hv hw]

end

/-! ## Members of a group -/

theorem nodup_keys_overlay (ha : (keys a).Nodup) (hb : (keys b).Nodup) :
    (keys (overlay a b)).Nodup := by
  rw [overlay_eq_layer]
  exact nodup_keys_layer _ ha hb

theorem nil_overlay (hb : (keys b).Nodup) : overlay [] b = b := by
  rw [overlay_eq_layer]
  exact nil_layer (fun _ _ ↦ rfl) hb

theorem overlay_overlay_self (ha : (keys a).Nodup) (hb : (keys b).Nodup) :
    overlay (overlay a b) b = overlay a b := by
  simp only [overlay_eq_layer]
  exact layer_layer_self ha hb fun _ _ _ ↦ rfl

theorem overlay_overlay (ha : (keys a).Nodup) (hb : (keys b).Nodup) (hc : (keys c).Nodup) :
    overlay (overlay a b) c = overlay a (overlay b c) := by
  simp only [overlay_eq_layer]
  exact layer_layer ha hb hc (fun _ _ ↦ rfl) fun _ _ _ _ _ ↦ rfl

/-! ## Options -/

/-- Options as a table: no key is repeated, and each group that is there is an object. -/
structure IsTable (fields : Fields) : Prop where
  nodup : (keys fields).Nodup
  group : ∀ group, groups.contains group = true → ∀ value, get? fields group = some value →
    ∃ ms, value = .obj ms ∧ (keys ms).Nodup

namespace IsTable

theorem nodup_members (ha : IsTable a) (hkey : groups.contains key = true) :
    (keys (members a key)).Nodup := by
  cases hvalue : get? a key with
  | none =>
    rw [members_of_get?_eq_none hvalue]
    exact List.nodup_nil
  | some value =>
    obtain ⟨ms, rfl, hms⟩ := ha.group key hkey value hvalue
    rwa [members_of_get?_obj hvalue]

/-- What is laid over a group of a table is laid over its members. -/
theorem laid_obj (ha : IsTable a) (hkey : groups.contains key = true) {ms : Fields}
    (hms : (keys ms).Nodup) :
    laid key (get? a key) (.obj ms) = .obj (overlay (members a key) ms) := by
  cases hvalue : get? a key with
  | none => rw [laid_none, members_of_get?_eq_none hvalue, nil_overlay hms]
  | some value =>
    obtain ⟨gs, rfl, -⟩ := ha.group key hkey value hvalue
    rw [laid_obj_obj hkey, members_of_get?_obj hvalue]

/-- A table laid over another is one. -/
theorem layer (ha : IsTable a) (hb : IsTable b) : IsTable (layer laid a b) where
  nodup := nodup_keys_layer _ ha.nodup hb.nodup
  group := by
    intro group hgroup value hvalue
    rw [get?_layer laid hb.nodup] at hvalue
    cases hlater : get? b group with
    | none =>
      rw [hlater] at hvalue
      exact ha.group group hgroup value hvalue
    | some later =>
      obtain ⟨ms, rfl, hms⟩ := hb.group group hgroup later hlater
      rw [hlater, Option.map_some, Option.some_or, ha.laid_obj hgroup hms] at hvalue
      exact ⟨_, (Option.some.inj hvalue).symm, nodup_keys_overlay (ha.nodup_members hgroup) hms⟩

/-- A table is merged over any options, since its groups are objects. -/
theorem merge_eq_ok (hb : IsTable b) (a : Fields) : merge a b = .ok (Fields.layer laid a b) := by
  obtain ⟨hnodup, hgroup⟩ := hb
  induction b generalizing a with
  | nil => rfl
  | cons f rest ih =>
    obtain ⟨k, v⟩ := f
    obtain ⟨hk, hrest⟩ := List.nodup_cons.1 hnodup
    have hone : mergeOne a k v = .ok (a.put k (laid k (get? a k) v)) := by
      refine mergeOne_eq_ok_iff.2 ⟨fun hkey _ ↦ ?_, rfl⟩
      obtain ⟨ms, hms, -⟩ := hgroup k hkey v (by rw [get?_cons, if_pos rfl])
      exact ⟨ms, hms⟩
    have htail (group : String) (hmem : groups.contains group = true) (value : Json)
        (hvalue : get? rest group = some value) : ∃ ms, value = .obj ms ∧ (keys ms).Nodup := by
      refine hgroup group hmem value ?_
      rw [get?_cons, if_neg, hvalue]
      rintro rfl
      rw [get?_eq_none_of_not_mem hk] at hvalue
      cases hvalue
    exact (bind_of_eq_ok hone).trans (ih _ hrest htail)

theorem layer_self (ha : IsTable a) (hb : IsTable b) :
    Fields.layer laid (Fields.layer laid a b) b = Fields.layer laid a b := by
  refine layer_layer_self ha.nodup hb.nodup fun key value hvalue ↦ ?_
  cases hkey : groups.contains key with
  | false => rw [laid_of_plain hkey, laid_of_plain hkey]
  | true =>
    obtain ⟨ms, rfl, hms⟩ := hb.group key hkey value hvalue
    rw [ha.laid_obj hkey hms, laid_obj_obj hkey,
      overlay_overlay_self (ha.nodup_members hkey) hms]

theorem layer_assoc (ha : IsTable a) (hb : IsTable b) (hc : IsTable c) :
    Fields.layer laid (Fields.layer laid a b) c = Fields.layer laid a (Fields.layer laid b c) := by
  refine layer_layer ha.nodup hb.nodup hc.nodup laid_none fun key v w hv hw ↦ ?_
  cases hkey : groups.contains key with
  | false => simp only [laid_of_plain hkey]
  | true =>
    obtain ⟨ms, rfl, hms⟩ := hb.group key hkey v hv
    obtain ⟨ns, rfl, hns⟩ := hc.group key hkey w hw
    rw [ha.laid_obj hkey hms, laid_obj_obj hkey, laid_obj_obj hkey,
      ha.laid_obj hkey (nodup_keys_overlay hms hns),
      overlay_overlay (ha.nodup_members hkey) hms hns]

end IsTable

/-- Options merged in layers.

Merging goes through and gives a table again.  Outside the groups an option is the one laid on top,
or the one below; a member of a group is the one laid on top, or the one below; no other key
appears.  Nothing laid over options, or options over nothing, leave them as they are; a layer laid
twice counts once; and layers may be grouped at will. -/
theorem merge_is_overlay (ha : IsTable a) (hb : IsTable b) (hc : IsTable c) :
    ∃ ab, merge a b = .ok ab ∧ IsTable ab ∧
      (∀ key, groups.contains key = false → get? ab key = (get? b key).or (get? a key)) ∧
      (∀ group, groups.contains group = true → ∀ key,
        get? (members ab group) key = (get? (members b group) key).or (get? (members a group) key)) ∧
      (∀ key, key ∈ keys ab ↔ key ∈ keys a ∨ key ∈ keys b) ∧
      merge [] a = .ok a ∧ merge a [] = .ok a ∧ merge ab b = .ok ab ∧
      ∃ bc, merge b c = .ok bc ∧ merge ab c = merge a bc ∧ ∃ abc, merge ab c = .ok abc := by
  have hab := hb.merge_eq_ok a
  refine ⟨_, hab, ha.layer hb, fun key hkey ↦ get?_merge hb.nodup hab hkey,
    fun group hgroup key ↦ get?_members_merge hb.nodup hab hgroup (hb.group group hgroup) key,
    fun key ↦ mem_keys_layer hb.nodup, ?_, rfl, ?_, _, hc.merge_eq_ok b, ?_, _, hc.merge_eq_ok _⟩
  · rw [ha.merge_eq_ok, nil_layer laid_none ha.nodup]
  · rw [hb.merge_eq_ok, ha.layer_self hb]
  · rw [hc.merge_eq_ok, (hb.layer hc).merge_eq_ok, ha.layer_assoc hb hc]

/-- Options of a scene on the Moon. -/
def lowest : Fields := [
  ("tile_size", .int 512),
  ("georeference", .obj [("datum", .str "lunar"), ("nudge_x", .int 1)])]

/-- Options with a group of their own. -/
def middle : Fields := [("pixels", .obj [("normalize", .bool true)]), ("tile_size", .int 128)]

/-- Options for one group, of which one is in the lowest layer too. -/
def uppermost : Fields := [("georeference", .obj [("nudge_x", .int 2), ("nudge_y", .int 3)])]

/-- The group of the lowest layer meets the one of the uppermost across a layer without it. -/
theorem merge_is_overlay_of_three_layers :
    IsTable lowest ∧ IsTable middle ∧ IsTable uppermost ∧
      ∃ ab bc abc, merge lowest middle = .ok ab ∧ get? ab "tile_size" = some (.int 128) ∧
        merge middle uppermost = .ok bc ∧ merge ab uppermost = .ok abc ∧ merge lowest bc = .ok abc ∧
        members abc "georeference" =
          [("datum", .str "lunar"), ("nudge_x", .int 2), ("nudge_y", .int 3)] := by
  have htable {fields : Fields} (hkeys : (keys fields).Nodup)
      (hgeoreference : ∀ value, get? fields "georeference" = some value →
        ∃ ms, value = .obj ms ∧ (keys ms).Nodup)
      (hpixels : ∀ value, get? fields "pixels" = some value →
        ∃ ms, value = .obj ms ∧ (keys ms).Nodup) : IsTable fields := by
    refine ⟨hkeys, fun group hgroup ↦ ?_⟩
    have hcases : group = "georeference" ∨ group = "pixels" := by simpa [groups] using hgroup
    rcases hcases with rfl | rfl
    · exact hgeoreference
    · exact hpixels
  have hlowest : IsTable lowest := by
    refine htable (by decide) ?_ nofun
    rintro _ ⟨⟩
    exact ⟨_, rfl, by decide⟩
  have hmiddle : IsTable middle := by
    refine htable (by decide) nofun ?_
    rintro _ ⟨⟩
    exact ⟨_, rfl, by decide⟩
  have huppermost : IsTable uppermost := by
    refine htable (by decide) ?_ nofun
    rintro _ ⟨⟩
    exact ⟨_, rfl, by decide⟩
  obtain ⟨ab, hab, -, hget, -, -, -, -, -, bc, hbc, hassoc, abc, habc⟩ :=
    merge_is_overlay hlowest hmiddle huppermost
  refine ⟨hlowest, hmiddle, huppermost, ab, bc, abc, hab, hget "tile_size" rfl, hbc, habc,
    hassoc ▸ habc, ?_⟩
  cases hab
  cases habc
  rfl

end Fields

end QuadMosaic
