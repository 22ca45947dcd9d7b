import OAuthEndpoint.Main
import OAuthEndpoint.Proofs.Endpoint.Location
import OAuthEndpoint.Proofs.Request.Parameters
import OAuthEndpoint.Proofs.Request.Registration
import OAuthEndpoint.Proofs.Dispatch
import OAuthEndpoint.Proofs.TokenSet
import OAuthEndpoint.Proofs.CodeGrant
import OAuthEndpoint.Proofs.Endpoint.Failures
import OAuthEndpoint.Proofs.Endpoint.Grant
import OAuthEndpoint.Proofs.ClientStore
import OAuthEndpoint.Proofs.Settings.Valid
import OAuthEndpoint.Proofs.Http.Location
import OAuthEndpoint.Proofs.Application
import OAuthEndpoint.Proofs.Url.Parser
import OAuthEndpoint.Proofs.Http.Sendable
import OAuthEndpoint.Proofs.Http.Rendering
import OAuthEndpoint.Proofs.Reply
import OAuthEndpoint.Proofs.Endpoint.Events
import OAuthEndpoint.Proofs.Secrecy
import OAuthEndpoint.Proofs.Endpoint.Pollution
import OAuthEndpoint.Proofs.Request.Transport
import OAuthEndpoint.Proofs.CodeGrant.Composition
import OAuthEndpoint.Proofs.Endpoint.StoreFailure
import OAuthEndpoint.Proofs.Request.Target
import OAuthEndpoint.Proofs.Request.Decoding
import OAuthEndpoint.Proofs.Request.Body
import OAuthEndpoint.Proofs.TokenSet.Canonical
import OAuthEndpoint.Proofs.ClientStore.History
import OAuthEndpoint.Proofs.Settings.FirstFault
import OAuthEndpoint.Proofs.Settings.Variables
import OAuthEndpoint.Proofs.Endpoint.Course
import OAuthEndpoint.Proofs.Launch
