import Bursar.Proofs.Service.Calls

/-!
# What a request makes a service do

Answering a request may take one act besides: a spend, a reversal, or a lookup of
metadata. Which one, if any, can be told from the request, the credentials, the
settings and the store (`Service.act?`); it does not depend on the collaborators.
Everything else that answering does is to read the store and to count
(`Service.respond_acts`). So the store after an answer and the calls made for it are
those of the act (`Service.store_respond`, `Service.callsOf_eq`).
-/

namespace Bursar

/-- What a service does for a request besides answering it. -/
inductive Act where
  | spend (c : SpendCommand)
  | reverse (transaction : Uuid)
  | lookup (key : CacheKey)

variable {σ : Type}

/-- The world after an act, if there is one. -/
def World.doing (w : World σ) (s : Surroundings σ) : Option Act → World σ
  | some (.spend c) => (w.spend s c).2
  | some (.reverse u) => (w.reverse s u).2
  | some (.lookup key) => (w.lookup s key).2
  | none => w

/-- What a request asks for, if its path names something and its method does something there. -/
def Endpoint.of? (r : Http.Request) : Option Endpoint :=
  (Route.ofPath? r.path).bind fun route => route.endpoint? r.method

namespace Service

/-- What an endpoint does for a caller, if the caller may have it done. -/
def actAt (s : Service σ) (store : Store) (p : Principal) (r : Http.Request) : Endpoint → Option Act
  | .createTransaction => (commandOf s.settings.maxBodySize store p r).toOption.map .spend
  | .reverseTransaction segment =>
    (Route.decodeSegment? segment).bind fun raw => (reversible store p raw).toOption.map .reverse
  | .showMetadata segment =>
    (Route.decodeSegment? segment).bind fun content =>
      (MetadataQuery.ofPairs (queryPairs r)).toOption.bind fun query =>
        (metadataEnterprise p query).toOption.map fun enterprise => .lookup (content, enterprise)
  | _ => none

/-- What a service does for a request besides answering it. -/
def act? (s : Service σ) (store : Store) (r : Http.Request) : Option Act :=
  match s.credentials.callerOf r with
  | .ok (some p) => (Endpoint.of? r).bind (s.actAt store p r)
  | _ => none

end Service

/-- The two worlds have the same store, and the same surroundings. -/
structure World.Like (w w' : World σ) : Prop where
  store : w'.store = w.store
  outside : w'.outside = w.outside

namespace World.Like

theorem refl (w : World σ) : w.Like w := ⟨rfl, rfl⟩

theorem trans {w₁ w₂ w₃ : World σ} (h : w₁.Like w₂) (h' : w₂.Like w₃) : w₁.Like w₃ :=
  ⟨h'.store.trans h.store, h'.outside.trans h.outside⟩

end World.Like

namespace Service

open World (Like)

variable {s : Service σ} {w : World σ} {r : Http.Request}

/-! ## Answers leave the store alone -/

theorem like_answer (w : World σ) (result : Except ServiceError (Nat × Json)) :
    w.Like (answer result w).2 := by
  cases result <;> exact ⟨rfl, rfl⟩

theorem like_withQuery {α : Type} (query : Except QueryFault α)
    {f : α → Http.Response × World σ} (h : ∀ a, w.Like (f a).2) :
    w.Like (withQuery query w f).2 := by
  cases query with
  | error => exact .refl w
  | ok a => exact h a

theorem like_withIdentifier (segment : String) {f : String → Http.Response × World σ}
    (h : ∀ id, w.Like (f id).2) : w.Like (withIdentifier segment w f).2 := by
  cases hd : Route.decodeSegment? segment with
  | none =>
    simp only [withIdentifier, hd]
    exact .refl w
  | some id =>
    simp only [withIdentifier, hd]
    exact h id

theorem like_openAnswer {e : Endpoint} {a : Http.Response × World σ} (h : s.openAnswer w e = some a) :
    w.Like a.2 := by
  cases e with
  | showBanner | showHealth =>
    obtain rfl := Option.some.inj h
    exact .refl w
  | createTransaction | listTransactions | showTransaction | reverseTransaction | showMetadata
  | listSubsidies | showSubsidy => cases h

theorem like_refuse (w : World σ) (e : ServiceError) : w.Like (refuse e w).2 := ⟨rfl, rfl⟩

/-! ## The three endpoints that act -/

theorem createTransaction_acts (s : Service σ) (p : Principal) (r : Http.Request) (w : World σ) :
    (w.doing s.surroundings (s.actAt w.store p r .createTransaction)).Like
      (s.createTransaction p r w).2 := by
  cases hc : commandOf s.settings.maxBodySize w.store p r with
  | error e =>
    simp only [createTransaction, actAt, hc]
    exact .refl w
  | ok c =>
    simp only [createTransaction, actAt, hc, Except.toOption, Option.map_some, World.doing]
    split <;> exact ⟨rfl, rfl⟩

theorem reverseTransaction_acts (s : Service σ) (p : Principal) (raw : String) (w : World σ) :
    (w.doing s.surroundings ((reversible w.store p raw).toOption.map .reverse)).Like
      (s.reverseTransaction p raw w).2 := by
  cases hu : reversible w.store p raw with
  | error e =>
    simp only [reverseTransaction, hu]
    exact .refl w
  | ok u =>
    simp only [reverseTransaction, hu, Except.toOption, Option.map_some, World.doing]
    split <;> rename_i hr <;> rw [hr] <;> exact .refl _

theorem showMetadata_acts (s : Service σ) (p : Principal) (content : String) (q : MetadataQuery)
    (w : World σ) :
    (w.doing s.surroundings
      ((metadataEnterprise p q).toOption.map fun enterprise => .lookup (content, enterprise))).Like
      (s.showMetadata p content q w).2 := by
  cases he : metadataEnterprise p q with
  | error e =>
    simp only [showMetadata, he]
    exact .refl w
  | ok enterprise =>
    simp only [showMetadata, he, Except.toOption, Option.map_some, World.doing]
    split <;> rename_i hl <;> rw [hl] <;> exact ⟨rfl, rfl⟩

theorem endpointAnswer_acts (s : Service σ) (p : Principal) (r : Http.Request) (w : World σ)
    (e : Endpoint) :
    (w.doing s.surroundings (s.actAt w.store p r e)).Like (s.endpointAnswer p r w e).2 := by
  -- three endpoints act, behind what may stop them before; of the others nothing is done
  cases e with
  | showBanner | showHealth => exact .refl w
  | createTransaction =>
    simp only [endpointAnswer]
    exact (s.createTransaction_acts p r w).trans (like_answer _ _)
  | listTransactions =>
    simp only [endpointAnswer, actAt, World.doing]
    exact like_withQuery _ fun listing => like_answer _ _
  | showTransaction segment =>
    simp only [endpointAnswer, actAt, World.doing]
    exact like_withIdentifier _ fun id => like_answer _ _
  | reverseTransaction segment =>
    cases hd : Route.decodeSegment? segment with
    | none =>
      simp only [actAt, endpointAnswer, withIdentifier, hd]
      exact .refl w
    | some id =>
      simp only [actAt, endpointAnswer, withIdentifier, hd, Option.bind_some]
      exact (s.reverseTransaction_acts p id w).trans (like_answer _ _)
  | showMetadata segment =>
    cases hd : Route.decodeSegment? segment with
    | none =>
      simp only [actAt, endpointAnswer, withIdentifier, hd]
      exact .refl w
    | some content =>
      cases hq : MetadataQuery.ofPairs (queryPairs r) with
      | error fault =>
        simp only [actAt, endpointAnswer, withIdentifier, withQuery, hd, hq]
        exact .refl w
      | ok query =>
        simp only [actAt, endpointAnswer, withIdentifier, withQuery, hd, hq, Option.bind_some,
          Except.toOption]
        exact (s.showMetadata_acts p content query w).trans (like_answer _ _)
  | listSubsidies =>
    simp only [endpointAnswer, actAt, World.doing]
    exact like_withQuery _ fun listing => like_answer _ _
  | showSubsidy segment =>
    simp only [endpointAnswer, actAt, World.doing]
    exact like_withIdentifier _ fun id => like_answer _ _

/-! ## The answer to a request -/

theorem like_callAnswer_none (s : Service σ) (r : Http.Request) (e : Endpoint) (w : World σ) :
    w.Like (s.callAnswer none r e w).2 := by
  unfold callAnswer
  cases ho : s.openAnswer w e with
  | none => exact like_refuse _ _
  | some a => exact like_openAnswer ho

theorem innerAnswer_acts (s : Service σ) (r : Http.Request) (w : World σ) :
    (w.doing s.surroundings (s.act? w.store r)).Like (s.innerAnswer r w).2 := by
  unfold innerAnswer act? Endpoint.of?
  cases s.credentials.callerOf r with
  | error e => exact like_refuse w e
  | ok caller =>
    cases Route.ofPath? r.path with
    | none => cases caller <;> exact .refl w
    | some route =>
      cases he : route.endpoint? r.method with
      | none => cases caller <;> simp only [he, Option.bind_some, Option.bind_none] <;> exact .refl w
      | some e =>
        cases caller with
        | some p =>
          simp only [he, Option.bind_some]
          exact s.endpointAnswer_acts p r w e
        | none =>
          simp only [he]
          exact s.like_callAnswer_none r e w

/-- No endpoint is there for a request that only asks for options. -/
theorem endpoint_of_options (h : r.method = "OPTIONS") : Endpoint.of? r = none := by
  unfold Endpoint.of?
  cases Route.ofPath? r.path with
  | none => rfl
  | some route => simp [Route.endpoint?, h]

theorem act?_of_options (s : Service σ) (store : Store) (h : r.method = "OPTIONS") :
    s.act? store r = none := by
  unfold act?
  rw [endpoint_of_options h]
  split <;> rfl

/-- **Answering a request is its act, if it has one, and nothing else** to the store and to
the collaborators. -/
theorem respond_acts (s : Service σ) (r : Http.Request) (w : World σ) :
    (World.doing { w with served := w.served + 1 } s.surroundings (s.act? w.store r)).Like
      (s.respond r w).2 := by
  have hcounted : (World.doing { w with served := w.served + 1 } s.surroundings
      (s.act? w.store r)).Like (s.countedAnswer r w).2 :=
    (s.innerAnswer_acts r { w with served := w.served + 1 }).trans ⟨rfl, rfl⟩
  unfold respond
  split
  · split
    · -- the request is answered without being counted, and no endpoint would answer it
      rename_i hoptions
      rw [s.act?_of_options w.store hoptions]
      exact ⟨rfl, rfl⟩
    · exact hcounted
  · exact hcounted

/-! ## Watched answers -/

/-- The calls that a service makes to answer a request, in order. -/
def callsOf (s : Service σ) (r : Http.Request) (w : World σ) : List Outcall :=
  (s.watched.respond r (w.watched [])).2.outside.2

end Service

namespace World

/-- What is seen of an act among watched surroundings is the act among the unwatched ones. -/
theorem unwatched_doing (s : Surroundings σ) (act : Option Act) (w : World (σ × List Outcall)) :
    (w.doing s.watched act).unwatched = w.unwatched.doing s act := by
  cases act with
  | none => rfl
  | some act =>
    cases act with
    | spend c => exact congrArg Prod.snd (spend_watched s c w)
    | reverse u => exact congrArg Prod.snd (reverse_watched s u w)
    | lookup key => exact congrArg Prod.snd (lookup_watched s key w)

end World

namespace Service

theorem store_respond (s : Service σ) (r : Http.Request) (w : World σ) :
    (s.respond r w).2.store =
      (World.doing (World.watched { w with served := w.served + 1 } []) s.surroundings.watched
        (s.act? w.store r)).store := by
  have hseen := World.unwatched_doing s.surroundings (s.act? w.store r)
    (World.watched { w with served := w.served + 1 } [])
  exact (s.respond_acts r w).store.trans (congrArg World.store hseen).symm

theorem callsOf_eq (s : Service σ) (r : Http.Request) (w : World σ) :
    s.callsOf r w =
      (World.doing (World.watched { w with served := w.served + 1 } []) s.surroundings.watched
        (s.act? w.store r)).outside.2 :=
  congrArg Prod.snd (s.watched.respond_acts r (w.watched [])).outside

end Service
end Bursar
