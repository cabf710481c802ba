import GraphqlBindings.Main
import GraphqlBindings.Proofs.Code.Rendered
import GraphqlBindings.Proofs.Generator.Finite
import GraphqlBindings.Proofs.Generator.Optional
import GraphqlBindings.Proofs.Generator.Readable
import GraphqlBindings.Proofs.Generator.Renaming
import GraphqlBindings.Proofs.Generator.SameTypes
import GraphqlBindings.Proofs.Naming.Legal
import GraphqlBindings.Proofs.Schema.Introspected
import GraphqlBindings.Proofs.Schema.Sound
import GraphqlBindings.Proofs.Sdl.FreeText
import GraphqlBindings.Proofs.Service.Outputs
import GraphqlBindings.Proofs.Schema.Edited
import GraphqlBindings.Proofs.Code.RawString
import GraphqlBindings.Proofs.Client.Endpoint
import GraphqlBindings.Proofs.Client.Headers
import GraphqlBindings.Proofs.Client.Reported
import GraphqlBindings.Proofs.Service.Listing
import GraphqlBindings.Proofs.Language.Default
import GraphqlBindings.Proofs.Naming.Stable
