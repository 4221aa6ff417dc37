import Refetch.Manifest
import Refetch.Proofs.OneByOne
import Refetch.Proofs.Source.Describing

/-!
# What manifests ask for

A manifest's descriptors become sources one by one, the query's first, then the fragments' in their
order. The first that describes no source is what is reported, whatever comes after it; where there
is none, each piece of the request is what the descriptor in its place describes. The request is
adapted as if its pieces had been put together, and the settings made, one after the other.

* `Request.foldl_addFragment` — a request put together of its pieces
* `Manifest.request_resolves` — which manifests give which requests, which errors and which outcomes
-/

namespace Refetch

namespace Request

/-- The pieces of a request, the query first. -/
def pieces (request : Request) : List Source := request.query :: request.fragments

/-- A request is known by its pieces, the query first. -/
theorem pieces_inj {request other : Request} : request.pieces = other.pieces ↔ request = other := by
  cases request
  cases other
  simp [pieces]

/-- A fragment is added behind those that are there. -/
theorem foldl_addFragment (request : Request) (fragments : List Source) :
    fragments.foldl addFragment request = ⟨request.query, request.fragments ++ fragments⟩ := by
  induction fragments generalizing request with
  | nil => rw [List.foldl_nil, List.append_nil]
  | cons fragment rest ih =>
    rw [List.foldl_cons, ih, query_addFragment, fragments_addFragment, List.append_assoc,
      List.singleton_append]

theorem foldl_addFragment_ofQuery (request : Request) :
    request.fragments.foldl addFragment (ofQuery request.query) = request := by
  rw [foldl_addFragment]
  rfl

end Request

theorem Adapter.setRootField_setTypePrefix (a : Adapter) (rootField prefixName : String) :
    (a.setTypePrefix prefixName).setRootField rootField =
      (a.setRootField rootField).setTypePrefix prefixName := rfl

namespace Manifest

variable {m : Manifest} {request : Request} {e : LoadError}

/-- A manifest's descriptors in the order in which they become sources. -/
def descriptors (m : Manifest) : List Json := m.query :: m.fragments

/-- The pieces of a manifest's request are its descriptors read one by one. -/
theorem map_pieces_request (m : Manifest) :
    m.request.map Request.pieces = m.descriptors.mapM Source.ofJson := by
  rw [request, descriptors]
  cases hquery : Source.ofJson m.query with
  | error e =>
    rw [exceptMapM_cons_of_error hquery]
    rfl
  | ok query =>
    rw [exceptMapM_cons_of_ok hquery]
    cases m.fragments.mapM Source.ofJson <;> rfl

/-- Each piece is what the descriptor in its place describes. -/
theorem request_eq_ok_iff :
    m.request = .ok request ↔ List.Forall₂ Json.Describes m.descriptors request.pieces := by
  have hrow : List.Forall₂ Json.Describes m.descriptors request.pieces ↔
      m.request.map Request.pieces = .ok request.pieces := by
    rw [map_pieces_request, exceptMapM_eq_ok_iff]
    simp only [Source.ofJson_eq_ok_iff]
  rw [hrow, exceptMap_eq_ok_iff]
  simp [Request.pieces_inj]

/-- The error names the first descriptor that describes nothing, the query's before the
fragments'. -/
theorem request_eq_error_iff :
    m.request = .error e ↔
      ∃ front first rest, m.descriptors = front ++ first :: rest ∧
        (∀ json ∈ front, json.IsDescriptor) ∧ ¬ first.IsDescriptor ∧
          e = .unrecognizedShape first.print := by
  rw [← exceptMap_eq_error_iff, map_pieces_request, exceptMapM_eq_error_iff]
  simp only [Source.ofJson_eq_ok_iff, Source.ofJson_eq_error_iff]
  rfl

/-- A manifest is a request exactly if each of its descriptors describes a source. -/
theorem exists_request_iff :
    (∃ request, m.request = .ok request) ↔ ∀ json ∈ m.descriptors, json.IsDescriptor := by
  simp only [request_eq_ok_iff]
  refine Iff.trans ⟨?_, ?_⟩ exists_forall₂_iff
  · rintro ⟨request, hpieces⟩
    exact ⟨request.pieces, hpieces⟩
  · rintro ⟨_, hpieces⟩
    cases hpieces with
    | cons hquery hfragments => exact ⟨⟨_, _⟩, .cons hquery hfragments⟩

/-- A manifest that is a request is adapted as that request is. -/
theorem adapt_of_request (h : m.request = .ok request) :
    m.adapt = m.adapter.adapt request := by
  rw [adapt, h]
  rfl

/-- A manifest gives a request if and only if the query and all of the fragments describe sources,
and the request has these sources, in the order of the descriptors. Otherwise the first that
describes none is reported, whatever those behind it are. What is adapted then is the request put
together of its pieces, with the settings made in either order. -/
theorem request_resolves (m : Manifest) :
    ((∃ request, m.request = .ok request) ↔
        m.query.IsDescriptor ∧ ∀ json ∈ m.fragments, json.IsDescriptor) ∧
      (∀ request, m.request = .ok request ↔
        m.query.Describes request.query ∧
          List.Forall₂ Json.Describes m.fragments request.fragments) ∧
      (∀ e, m.request = .error e ↔
        ∃ front first rest, m.query :: m.fragments = front ++ first :: rest ∧
          (∀ json ∈ front, json.IsDescriptor) ∧ ¬ first.IsDescriptor ∧
            e = .unrecognizedShape first.print) ∧
      ∀ request, m.request = .ok request →
        let resolved := request.fragments.foldl Request.addFragment (.ofQuery request.query)
        m.adapt = m.adapter.adapt request ∧
          m.adapter.adapt request =
            ((Adapter.default.setRootField m.rootField).setTypePrefix m.typePrefix).adapt
              resolved ∧
          m.adapter.adapt request =
            ((Adapter.default.setTypePrefix m.typePrefix).setRootField m.rootField).adapt
              resolved := by
  refine ⟨?_, fun request => ?_, fun e => request_eq_error_iff, fun request h => ?_⟩
  · rw [exists_request_iff, descriptors, List.forall_mem_cons]
  · rw [request_eq_ok_iff, descriptors, Request.pieces, List.forall₂_cons]
  · intro resolved
    have hresolved : resolved = request := request.foldl_addFragment_ofQuery
    rw [hresolved, Adapter.setRootField_setTypePrefix]
    exact ⟨adapt_of_request h, rfl, rfl⟩

end Manifest

end Refetch
