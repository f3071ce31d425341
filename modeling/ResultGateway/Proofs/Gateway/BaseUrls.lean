-- Base URLs made again. The text of a base URL makes the same base URL and
-- the same endpoints, and so does every text that differs from the one it
-- was made from only in what a base URL drops and adds. That the text of the
-- URL is read as the URL is no more than that the text of its host is read
-- as the host: every other part is written in the way in which it is read.
import Mathlib
import ResultGateway.Proofs.Gateway.Endpoints
import ResultGateway.Proofs.Url.Variants
import ResultGateway.Proofs.Url.Written

namespace ResultGateway.Gateway

open Url (Host IsVariant IsWritten)

/-! ## Bases of bases -/

theorem asBase_asBase (u : Url) : u.asBase.asBase = u.asBase := by
  obtain ⟨front, hfront⟩ := asBase_path u
  have hends : u.asBase.endsInSlash = true := by
    unfold Url.endsInSlash
    rw [hfront, List.getLast?_concat]
    rfl
  have hagain : u.asBase.asBase.path = u.asBase.path := if_pos hends
  show { u.asBase with path := u.asBase.asBase.path } = u.asBase
  rw [hagain]

/-- The text of a base URL makes that base URL, if it is read as that URL. -/
theorem baseUrl_text {base : Url} (hbase : base.asBase = base)
    (hread : Url.parse base.text = .ok (.web base)) : baseUrl base.text = .ok base :=
  baseUrl_eq_ok.mpr ⟨base, hread, hbase.symm⟩

/-! ## Bases that are read -/

/-- A base URL is written in the way in which it is read. -/
theorem isWritten_base {raw : String} {base : Url} (h : baseUrl raw = .ok base) :
    IsWritten base := by
  obtain ⟨url, hurl, rfl⟩ := baseUrl_eq_ok.mp h
  exact Url.isWritten_asBase (Url.isWritten_of_parse hurl)

theorem baseUrl_iff_readsBase {raw : String} {base : Url} :
    baseUrl raw = .ok base ↔ Url.ReadsBase (Url.cleaned raw) base :=
  baseUrl_eq_ok.trans Url.readsBase_iff.symm

theorem endpoints_iff_baseUrl {raw : String} {e : Endpoints} :
    endpoints raw = .ok e ↔ ∃ base, baseUrl raw = .ok base ∧ e = .ofBase base := by
  unfold endpoints
  cases baseUrl raw with
  | error f => simp
  | ok base => simp [eq_comm]

/-- Variants of a text make the same endpoints, or none at all. -/
theorem endpoints_variant {raw raw' : String} (h : IsVariant raw raw') (e : Endpoints) :
    endpoints raw = .ok e ↔ endpoints raw' = .ok e := by
  have hbase : ∀ base, baseUrl raw = .ok base ↔ baseUrl raw' = .ok base := fun base => by
    rw [baseUrl_iff_readsBase, baseUrl_iff_readsBase, Url.readsBase_variant h]
  simp only [endpoints_iff_baseUrl, hbase]

/-! ## The law -/

/-- A base URL is made again of its text. Its path is what is read from the text of its path. If
its text is read as the URL, the text makes the same base URL and the same endpoints; and it is
read so if the text of the host is read as the host. Variants of a text make the same endpoints
in any case. -/
theorem base_urls_are_made_again_of_their_texts {raw : String} {base : Url}
    (h : baseUrl raw = .ok base) :
    endpoints raw = .ok (.ofBase base) ∧
    Url.pathFrom [] (Url.dropSlash (Url.pathText base.path).toList) = base.path ∧
    (Url.parse base.text = .ok (.web base) →
      baseUrl base.text = .ok base ∧ endpoints base.text = endpoints raw) ∧
    (Host.parse base.host.text.toList = .ok base.host → Url.parse base.text = .ok (.web base)) ∧
    ∀ raw', IsVariant raw raw' ∨ IsVariant raw' raw → endpoints raw' = endpoints raw := by
  have hends : endpoints raw = .ok (.ofBase base) := endpoints_iff_baseUrl.mpr ⟨base, h, rfl⟩
  have hwritten := isWritten_base h
  obtain ⟨url, -, rfl⟩ := baseUrl_eq_ok.mp h
  refine ⟨hends, ?_, ?_, ?_, ?_⟩
  · exact congrArg Url.path (Url.withPath_pathText url hwritten.some_segment hwritten.path)
  · intro hread
    have hagain := baseUrl_text (asBase_asBase url) hread
    rw [hends]
    exact ⟨hagain, endpoints_iff_baseUrl.mpr ⟨url.asBase, hagain, rfl⟩⟩
  · exact fun hhost => Url.parse_text hwritten hhost rfl rfl
  · intro raw' hvariant
    rw [hends]
    rcases hvariant with hvariant | hvariant
    · exact (endpoints_variant hvariant _).mp hends
    · exact (endpoints_variant hvariant _).mpr hends

/-- A text with a query, one with a fragment and a blank in front, and one with a slash at its end
make one base URL, and so does the text of that. -/
theorem one_base_url_is_made_of_four_texts : ∃ base,
    baseUrl "http://u:p@[::1]:8080/api?q#f" = .ok base ∧
    base.text = "http://u:p@[::1]:8080/api/" ∧
    Host.parse base.host.text.toList = .ok base.host ∧
    Url.parse base.text = .ok (.web base) ∧ baseUrl base.text = .ok base ∧
    endpoints "http://u:p@[::1]:8080/api?q#f" = .ok (.ofBase base) ∧
    endpoints base.text = endpoints "http://u:p@[::1]:8080/api?q#f" ∧
    endpoints " http://u:p@[::1]:8080/api#x" = endpoints "http://u:p@[::1]:8080/api?q#f" ∧
    endpoints "http://u:p@[::1]:8080/api/?q" = endpoints "http://u:p@[::1]:8080/api?q#f" := by
  have hread : baseUrl "http://u:p@[::1]:8080/api?q#f" = .ok ⟨.http, "u", some "p",
      .ipv6 [0, 0, 0, 0, 0, 0, 0, 1], some 8080, ["api", ""], none, none⟩ := by cbv
  obtain ⟨hends, -, hagain, hparse, hvariants⟩ := base_urls_are_made_again_of_their_texts hread
  have hhost : Host.parse (Host.ipv6 [0, 0, 0, 0, 0, 0, 0, 1]).text.toList =
      .ok (.ipv6 [0, 0, 0, 0, 0, 0, 0, 1]) := by cbv
  have hbare : Url.bare "http://u:p@[::1]:8080/api?q#f" =
      Url.bare " http://u:p@[::1]:8080/api#x" := by decide
  have hslash : Url.bare "http://u:p@[::1]:8080/api/?q" =
      Url.bare "http://u:p@[::1]:8080/api?q#f" ++ ['/'] := by decide
  have hlast : ∀ c, (Url.bare "http://u:p@[::1]:8080/api?q#f").getLast? = some c →
      Url.isSlash c = false := by
    rintro c ⟨⟩
    rfl
  refine ⟨_, hread, ?_, hhost, hparse hhost, (hagain (hparse hhost)).1, hends,
    (hagain (hparse hhost)).2, hvariants _ (.inl (.ends hbare)),
    hvariants _ (.inl (.slash hslash hlast))⟩
  cbv

end ResultGateway.Gateway
