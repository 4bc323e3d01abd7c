import OpenSpdm.ManagedBuffer
import OpenSpdm.Context
import OpenSpdm.Transcript
import OpenSpdm.SetData
import OpenSpdm.Session.Registry
import OpenSpdm.Session.HalfId
import OpenSpdm.CertChain
import OpenSpdm.Signature
import OpenSpdm.Crypto.Ed
import OpenSpdm.Handshake.Transcript
import OpenSpdm.Handshake.Agreement
import OpenSpdm.Measurement
import OpenSpdm.Challenge.Message
import OpenSpdm.Challenge.Responder
import OpenSpdm.Challenge.EncapResponder
import OpenSpdm.Challenge.Requester
import OpenSpdm.Challenge.Agreement
import OpenSpdm.Challenge.Protocol
import OpenSpdm.Dump.OpaqueData
import OpenSpdm.Dump.SecuredMessage
import OpenSpdm.Handshake.PskFinish
import OpenSpdm.MeasurementSignature
import OpenSpdm.GetData
