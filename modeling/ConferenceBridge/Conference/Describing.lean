import ConferenceBridge.Conference
import ConferenceBridge.Error

/-!
# How a conference describes itself

Descriptions are added to a record and leave the conference as it is. Endpoints are asked for their
bundles one after the other until one fails.
-/

namespace ConferenceBridge

/-- What came of asking endpoints for their bundles. -/
structure BundleBatch where
  /-- The bundles in order, up to the first failure. -/
  bundles : List Description.Bundle
  /-- The endpoints that were asked, the one that failed included. -/
  asked : List Endpoint
  /-- The endpoint that failed, and its failure. -/
  failed : Option (Endpoint × Failure)
  deriving DecidableEq

/-- Asks endpoints for their bundles until one fails. -/
def BundleBatch.collect (ask : Endpoint → Except Failure Description.Bundle) :
    List Endpoint → BundleBatch
  | [] => { bundles := [], asked := [], failed := none }
  | endpoint :: rest =>
    match ask endpoint with
    | .error failure => { bundles := [], asked := [endpoint], failed := some (endpoint, failure) }
    | .ok bundle =>
      let later := collect ask rest
      { bundles := bundle :: later.bundles
        asked := endpoint :: later.asked
        failed := later.failed }

/-- The error that an endpoint's failure leads to. A failure of its transport becomes an answer to
the request. -/
def Failure.toError (failure : Failure) : Error :=
  match failure with
  | .transport _ text => .processing ⟨.internalServerError, some text⟩ (some failure)
  | .uncountable | .unexpected .. => .endpoint failure

/-- What is reported about an endpoint's failure. -/
def Failure.notices (failure : Failure) (endpoint : Endpoint) : List Notice :=
  match failure with
  | .transport _ text => [.descriptionFailed endpoint.id text]
  | .uncountable | .unexpected .. => []

namespace Conference

/-- Describes the id and the name of a conference. -/
def describeShallow (conference : Conference) (record : Description.Conference) :
    Description.Conference :=
  { record with id := some conference.id, name := conference.name }

/-- Describes a content with its channels. -/
def describeContent (record : Description.Conference) (entry : MediaType × Content) :
    Description.Conference :=
  record.addChannels entry.1.name (entry.2.values.map Channel.describe)

/-- Describes a conference and the contents of a view. -/
def describeDeep (conference : Conference) (view : Nat) (record : Description.Conference) :
    Description.Conference :=
  (conference.contents view).foldl describeContent (conference.describeShallow record)

/-- Describes the endpoints that take part. -/
def describeEndpoints (conference : Conference) (record : Description.Conference) :
    Description.Conference :=
  { record with
    endpoints := record.endpoints ++ conference.present.map fun entry => entry.2.describe }

/-- The endpoints that take part and have one of the ids. -/
def selected (conference : Conference) (ids : List String) : List Endpoint :=
  (conference.present.map Prod.snd).filter fun endpoint => ids.contains endpoint.id

/-- The bundle of an endpoint's channels. -/
def bundle (conference : Conference) (endpoint : Endpoint) :
    Except Failure Description.Bundle :=
  endpoint.bundle conference.channels

/-- Asks the endpoints that have one of the ids for their bundles. -/
def bundles (conference : Conference) (ids : List String) : BundleBatch :=
  .collect conference.bundle (conference.selected ids)

end Conference

end ConferenceBridge
