import DemandRouting.Proofs.Lists
import DemandRouting.Proofs.Url.Form
import DemandRouting.Remote.Client

namespace DemandRouting

namespace SliceKey

def shownSize (k : SliceKey) : String := k.size.getD "*"

def shownPublisher (k : SliceKey) : String := k.publisher.getD "*"

-- The same number of separators inside the parts before the last, and the same parts open.
structure Alike (k k' : SliceKey) : Prop where
  country : k.country.toList.count '|' = k'.country.toList.count '|'
  size : k.shownSize.toList.count '|' = k'.shownSize.toList.count '|'
  unsized : k.size = none ↔ k'.size = none
  unpublished : k.publisher = none ↔ k'.publisher = none

-- No separator inside the parts before the last, and no part that reads as an open one.
structure Plain (k : SliceKey) : Prop where
  country : '|' ∉ k.country.toList
  size : '|' ∉ k.shownSize.toList
  sized : k.size ≠ some "*"
  published : k.publisher ≠ some "*"

theorem toList_display (k : SliceKey) :
    k.display.toList = k.country.toList ++ '|' :: (k.device.name.toList ++ '|' ::
      (k.format.name.toList ++ '|' :: (k.shownSize.toList ++ '|' :: k.shownPublisher.toList))) := by
  simp only [display, String.toList_append, List.append_assoc]
  rfl

theorem count_deviceName (d : DeviceClass) : d.name.toList.count '|' = 0 := by
  cases d <;> decide

theorem count_formatName (f : AdFormat) : f.name.toList.count '|' = 0 := by
  cases f <;> decide

theorem deviceName_inj {d d' : DeviceClass} (h : d.name.toList = d'.name.toList) : d = d' := by
  revert h
  cases d <;> cases d' <;> decide

theorem formatName_inj {f f' : AdFormat} (h : f.name.toList = f'.name.toList) : f = f' := by
  revert h
  cases f <;> cases f' <;> decide

-- What two keys with one display share, whichever of their parts are open.
structure SameShown (k k' : SliceKey) : Prop where
  country : k.country = k'.country
  device : k.device = k'.device
  format : k.format = k'.format
  size : k.shownSize = k'.shownSize
  publisher : k.shownPublisher = k'.shownPublisher

-- Part by part: with as many separators inside this one, the next one begins at the same place.
theorem sameShown_of_display {k k' : SliceKey}
    (hcountry : k.country.toList.count '|' = k'.country.toList.count '|')
    (hsize : k.shownSize.toList.count '|' = k'.shownSize.toList.count '|')
    (h : k.display = k'.display) : SameShown k k' := by
  have hchars : k.display.toList = k'.display.toList := congrArg String.toList h
  rw [toList_display, toList_display] at hchars
  obtain ⟨hcountries, hchars⟩ := append_cons_inj_of_count hcountry hchars
  have hdevice := (count_deviceName k.device).trans (count_deviceName k'.device).symm
  obtain ⟨hdevices, hchars⟩ := append_cons_inj_of_count hdevice hchars
  have hformat := (count_formatName k.format).trans (count_formatName k'.format).symm
  obtain ⟨hformats, hchars⟩ := append_cons_inj_of_count hformat hchars
  obtain ⟨hsizes, hpublishers⟩ := append_cons_inj_of_count hsize hchars
  exact {
    country := String.toList_injective hcountries
    device := deviceName_inj hdevices
    format := formatName_inj hformats
    size := String.toList_injective hsizes
    publisher := String.toList_injective hpublishers }

-- A part that is known to be open or not is known from what is shown of it.
theorem eq_of_getD {a a' : Option String} {mark : String} (h : a.getD mark = a'.getD mark)
    (hopen : a = none ↔ a' = none) : a = a' := by
  cases a with
  | none => exact (hopen.mp rfl).symm
  | some s =>
    cases a' with
    | none => cases hopen.mpr rfl
    | some s' => exact congrArg some h

theorem open_of_getD {a a' : Option String} {mark : String} (h : a.getD mark = a'.getD mark)
    (ha' : a' ≠ some mark) (hnone : a = none) : a' = none := by
  subst hnone
  cases a' with
  | none => rfl
  | some s => exact absurd (congrArg some h.symm) ha'

theorem Alike.refl (k : SliceKey) : k.Alike k := ⟨rfl, rfl, .rfl, .rfl⟩

theorem eq_iff_display {k k' : SliceKey} : k = k' ↔ k.display = k'.display ∧ k.Alike k' := by
  constructor
  · rintro rfl
    exact ⟨rfl, .refl k⟩
  · rintro ⟨h, halike⟩
    have hshown := sameShown_of_display halike.country halike.size h
    rw [SliceKey.mk.injEq]
    exact ⟨hshown.country, hshown.device, hshown.format, eq_of_getD hshown.size halike.unsized,
      eq_of_getD hshown.publisher halike.unpublished⟩

theorem Plain.alike {k k' : SliceKey} (hk : k.Plain) (hk' : k'.Plain)
    (h : k.display = k'.display) : k.Alike k' := by
  have hcountry : k.country.toList.count '|' = k'.country.toList.count '|' := by
    rw [List.count_eq_zero.mpr hk.country, List.count_eq_zero.mpr hk'.country]
  have hsize : k.shownSize.toList.count '|' = k'.shownSize.toList.count '|' := by
    rw [List.count_eq_zero.mpr hk.size, List.count_eq_zero.mpr hk'.size]
  have hshown := sameShown_of_display hcountry hsize h
  exact {
    country := hcountry
    size := hsize
    unsized := ⟨open_of_getD hshown.size hk'.sized, open_of_getD hshown.size.symm hk.sized⟩
    unpublished := ⟨open_of_getD hshown.publisher hk'.published,
      open_of_getD hshown.publisher.symm hk.published⟩ }

end SliceKey

namespace Url

-- What is asked for is told from another value, whatever the URL asks already.
theorem addPair_inj {u : Url} {name value value' : String} :
    u.addPair name value = u.addPair name value' ↔ value = value' := by
  refine ⟨fun h => ?_, congrArg (u.addPair name)⟩
  have hquery : (u.addPair name value).query = (u.addPair name value').query := congrArg query h
  have hvalue : form value.toList = form value'.toList := by
    unfold addPair at hquery
    split at hquery <;> simpa using hquery
  exact String.toList_injective (form_inj.mp hvalue)

end Url

namespace Client

theorem urlOf_pair {c : Client} {call : Call} {url : Url} {name value : String}
    (hpair : call.pair? = some (name, value)) (h : c.urlOf call = .ok url) :
    ∃ base, c.base.extend? call.segments = some base ∧ url = base.addPair name value := by
  unfold urlOf at h
  split at h
  · cases h
  · rename_i base hbase
    rw [hpair] at h
    exact ⟨base, hbase, (Except.ok.inj h).symm⟩

-- Two questions of the same kind go to one URL exactly if their keys are displayed alike.
theorem urlOf_eq_iff {c : Client} {call call' : Call} {url : Url} {k k' : SliceKey}
    (hsegments : call'.segments = call.segments) (hpair : call.pair? = some ("key", k.display))
    (hpair' : call'.pair? = some ("key", k'.display)) (h : c.urlOf call = .ok url) :
    c.urlOf call' = .ok url ↔ k.display = k'.display := by
  obtain ⟨base, hbase, rfl⟩ := urlOf_pair hpair h
  have hasked : c.urlOf call' = .ok (base.addPair "key" k'.display) := by
    rw [urlOf, hsegments, hbase, hpair']
  rw [hasked, Except.ok.injEq, Url.addPair_inj]
  exact eq_comm

end Client

namespace SliceKey

-- Two keys of one display are the same exactly if they are alike in what it leaves out, so always
-- if both are plain. The client asks at one URL for both exactly if they have one display.
theorem display_names (k k' : SliceKey) :
    (k = k' ↔ k.display = k'.display ∧ k.Alike k') ∧
      (k.Plain → k'.Plain → k.display = k'.display → k = k') ∧
      ∀ (c : Client) (bidder : String) (url : Url),
        (c.urlOf (.recent ⟨bidder, some k⟩) = .ok url →
          (c.urlOf (.recent ⟨bidder, some k'⟩) = .ok url ↔ k.display = k'.display)) ∧
        (c.urlOf (.lifetime ⟨bidder, some k⟩) = .ok url →
          (c.urlOf (.lifetime ⟨bidder, some k'⟩) = .ok url ↔ k.display = k'.display)) := by
  refine ⟨eq_iff_display, fun hk hk' h => eq_iff_display.mpr ⟨h, hk.alike hk' h⟩, ?_⟩
  intro c bidder url
  exact ⟨Client.urlOf_eq_iff rfl rfl rfl, Client.urlOf_eq_iff rfl rfl rfl⟩

def sizedBanner : SliceKey := make "US" .mobile .banner (some "300x250") (some "news")

def openBanner : SliceKey := make "US" .mobile .banner none none

-- A publisher may have any name, so also that of none.
def starBanner : SliceKey := make "US" .mobile .banner none (some "*")

def localClient : Client :=
  ⟨{ scheme := "http".toList, host := some "localhost".toList, port := some 8090, path := ['/'] },
    20, none⟩

theorem plain_sizedBanner : sizedBanner.Plain :=
  ⟨by decide +kernel, by decide +kernel, by decide +kernel, by decide +kernel⟩

def sizedBannerUrl (window : String) : Url :=
  { localClient.base with
    path := ("/v1/" ++ window ++ "/acme").toList
    query := some "key=US%7Cmobile%7Cbanner%7C300x250%7Cnews".toList }

theorem display_names_sizedBanner :
    sizedBanner = sizedBanner ∧
      (localClient.urlOf (.recent ⟨"acme", some openBanner⟩) = .ok (sizedBannerUrl "realtime") ↔
        sizedBanner.display = openBanner.display) ∧
      (localClient.urlOf (.lifetime ⟨"acme", some openBanner⟩) = .ok (sizedBannerUrl "historical") ↔
        sizedBanner.display = openBanner.display) := by
  have hsame := (display_names sizedBanner sizedBanner).2.1 plain_sizedBanner plain_sizedBanner rfl
  have hclient := (display_names sizedBanner openBanner).2.2 localClient "acme"
  have hrecent : localClient.urlOf (.recent ⟨"acme", some sizedBanner⟩) =
      .ok (sizedBannerUrl "realtime") := by decide +kernel
  have hlifetime : localClient.urlOf (.lifetime ⟨"acme", some sizedBanner⟩) =
      .ok (sizedBannerUrl "historical") := by decide +kernel
  exact ⟨hsame, (hclient _).1 hrecent, (hclient _).2 hlifetime⟩

-- Different slices with one display, for which the client asks at one URL.
theorem display_starBanner_collides :
    openBanner ≠ starBanner ∧ openBanner.display = starBanner.display ∧
      (localClient.urlOf (.recent ⟨"acme", some openBanner⟩)).isOk = true ∧
      localClient.urlOf (.recent ⟨"acme", some openBanner⟩) =
        localClient.urlOf (.recent ⟨"acme", some starBanner⟩) ∧
      localClient.urlOf (.lifetime ⟨"acme", some openBanner⟩) =
        localClient.urlOf (.lifetime ⟨"acme", some starBanner⟩) := by
  decide +kernel

end SliceKey
end DemandRouting
