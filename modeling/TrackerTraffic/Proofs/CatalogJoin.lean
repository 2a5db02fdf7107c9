import TrackerTraffic.Proofs.CatalogWork

/-!
# Documents joined

A document that lists the entries of two documents is read exactly if both of them are
and no id is in both.  Its catalog is the two catalogs one behind the other, and its
adapters are those of the merge, which comes to them by a check of its own.
-/

namespace TrackerTraffic.Catalog

/-- A document that lists entries, as they are written. -/
def listing (entries : List Json) : Json := .object [("trackers", .array entries)]

/-- A catalog behind another one, with all the trackers of both. -/
def join (c d : Catalog) : Catalog := ⟨c.trackers ++ d.trackers, c.adapters ++ d.adapters⟩

theorem ids_join (c d : Catalog) : (join c d).ids = c.ids ++ d.ids := List.map_append

/-! ### Entries of a listing -/

theorem readEntries_listing (values : List Json) :
    readEntries (listing values) = values.mapM readEntry := by
  have hlist : Reader.list readEntry (.array values) = values.mapM readEntry := rfl
  simp only [readEntries, listing, Reader.record, Reader.ofEntries, List.foldlM_cons,
    List.foldlM_nil, Reader.enterMember, Field.named?, List.find?_cons, Field.may, beq_self_eq_true,
    Filled.enter, Filled.blank, hlist]
  cases values.mapM readEntry <;> rfl

theorem mapM_append_eq_ok_iff {α β ε : Type} {f : α → Except ε β} {xs ys : List α} {zs : List β} :
    (xs ++ ys).mapM f = .ok zs ↔
      ∃ front back, xs.mapM f = .ok front ∧ ys.mapM f = .ok back ∧ zs = front ++ back := by
  rw [List.mapM_append, bind_eq_ok_iff]
  constructor
  · rintro ⟨front, hfront, hrest⟩
    obtain ⟨back, hback, hpure⟩ := bind_eq_ok_iff.1 hrest
    exact ⟨front, back, hfront, hback, (Except.ok.inj hpure).symm⟩
  · rintro ⟨front, back, hfront, hback, rfl⟩
    exact ⟨front, hfront, bind_eq_ok_iff.2 ⟨back, hback, rfl⟩⟩

theorem ofDocument_listing_iff {values : List Json} {c : Catalog} :
    ofDocument (listing values) = .ok c ↔
      ∃ entries, values.mapM readEntry = .ok entries ∧ Describes entries c := by
  rw [ofDocument_eq_ok_iff, readEntries_listing]

/-! ### Catalogs of joined entries -/

theorem Describes.join {front back : List Entry} {c d : Catalog} (hc : Describes front c)
    (hd : Describes back d) (hdisjoint : ∀ id ∈ d.ids, id ∉ c.ids) :
    Describes (front ++ back) (join c d) where
  trackers := by rw [Catalog.join, hc.trackers, hd.trackers, List.map_append]
  adapters := by
    rw [readAdapters, List.flatMap_append, ← readAdapters, ← readAdapters, hc.adapters,
      hd.adapters, Catalog.join, List.map_append]
  nodup := by
    rw [ids_join]
    refine hc.nodup.append hd.nodup ?_
    intro id hid hshared
    exact hdisjoint id hshared hid

/-- What joined entries describe is a catalog of the first ones and a catalog of the others. -/
theorem Describes.exists_join {front back : List Entry} {whole : Catalog}
    (h : Describes (front ++ back) whole) :
    ∃ c d, Describes front c ∧ Describes back d ∧ (∀ id ∈ d.ids, id ∉ c.ids) ∧
      whole = Catalog.join c d := by
  obtain ⟨trackers, adapters⟩ := whole
  obtain ⟨htrackers, hadapters, hnodup⟩ := h
  have hread := hadapters
  rw [readAdapters, List.flatMap_append, ← readAdapters, ← readAdapters] at hread
  obtain ⟨first, others, rfl, hfirst, hothers⟩ := List.map_eq_append_iff.1 hread.symm
  have hids : (first.map Adapter.id ++ others.map Adapter.id).Nodup := by
    rw [← List.map_append]
    exact hnodup
  obtain ⟨hfront, hback, hdisjoint⟩ := List.nodup_append'.1 hids
  refine ⟨⟨front.map Entry.tracker, first⟩, ⟨back.map Entry.tracker, others⟩,
    ⟨rfl, hfirst.symm, hfront⟩, ⟨rfl, hothers.symm, hback⟩, ?_, ?_⟩
  · intro id hid hshared
    exact hdisjoint hshared hid
  · rw [Catalog.join, ← List.map_append, ← htrackers]

/-- Joined documents have the joined catalog, if there is no id in both. -/
theorem ofDocument_listing_append_iff {first second : List Json} {whole : Catalog} :
    ofDocument (listing (first ++ second)) = .ok whole ↔
      ∃ c d, ofDocument (listing first) = .ok c ∧ ofDocument (listing second) = .ok d ∧
        (∀ id ∈ d.ids, id ∉ c.ids) ∧ whole = join c d := by
  constructor
  · intro h
    obtain ⟨entries, hread, hwhole⟩ := ofDocument_listing_iff.1 h
    obtain ⟨front, back, hfront, hback, rfl⟩ := mapM_append_eq_ok_iff.1 hread
    obtain ⟨c, d, hc, hd, hdisjoint, rfl⟩ := hwhole.exists_join
    exact ⟨c, d, ofDocument_listing_iff.2 ⟨front, hfront, hc⟩,
      ofDocument_listing_iff.2 ⟨back, hback, hd⟩, hdisjoint, rfl⟩
  · rintro ⟨c, d, hc, hd, hdisjoint, rfl⟩
    obtain ⟨front, hfront, hc⟩ := ofDocument_listing_iff.1 hc
    obtain ⟨back, hback, hd⟩ := ofDocument_listing_iff.1 hd
    exact ofDocument_listing_iff.2 ⟨front ++ back,
      mapM_append_eq_ok_iff.2 ⟨front, back, hfront, hback, rfl⟩, hc.join hd hdisjoint⟩

/-- Of entries listed together a catalog is made exactly if one is made of each part and the parts
share no id.  Its adapters are those of the first part in front of those of the second, and so are
those that merging the second catalog into the first leads to. -/
theorem ofDocument_append (first second : List Json) :
    ((∃ whole, ofDocument (listing (first ++ second)) = .ok whole) ↔
      ∃ c d, ofDocument (listing first) = .ok c ∧ ofDocument (listing second) = .ok d ∧
        ∀ id ∈ d.ids, id ∉ c.ids) ∧
    ∀ whole, ofDocument (listing (first ++ second)) = .ok whole →
      ∃ c d merged, ofDocument (listing first) = .ok c ∧ ofDocument (listing second) = .ok d ∧
        whole.adapters = c.adapters ++ d.adapters ∧
        (Work.merge d).run c = .ok d.adapters.length merged ∧
          merged.adapters = whole.adapters := by
  constructor
  · constructor
    · rintro ⟨whole, hwhole⟩
      obtain ⟨c, d, hc, hd, hdisjoint, -⟩ := ofDocument_listing_append_iff.1 hwhole
      exact ⟨c, d, hc, hd, hdisjoint⟩
    · rintro ⟨c, d, hc, hd, hdisjoint⟩
      exact ⟨join c d, ofDocument_listing_append_iff.2 ⟨c, d, hc, hd, hdisjoint, rfl⟩⟩
  · intro whole hwhole
    obtain ⟨c, d, hc, hd, hdisjoint, rfl⟩ := ofDocument_listing_append_iff.1 hwhole
    -- The merge keeps each tracker once, so that only its adapters are those of the whole.
    let merged : Catalog := ⟨d.trackers.foldl addTracker c.trackers, c.adapters ++ d.adapters⟩
    have hmerge : c.merge d = .ok merged := merge_eq_ok_iff.2 ⟨hdisjoint, rfl⟩
    refine ⟨c, d, merged, hc, hd, rfl, ?_, rfl⟩
    rw [Work.run_merge, hmerge]
    rfl

end TrackerTraffic.Catalog
