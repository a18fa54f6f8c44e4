import MsaCore.Amqp.Table
import MsaCore.Amqp.Message
import MsaCore.Amqp.Broker
import MsaCore.Amqp.Channel
import MsaCore.Tracing.TraceContext
import MsaCore.RabbitMQ.Topology
import MsaCore.RabbitMQ.SetupDLX
import MsaCore.RabbitMQ.Publish
import MsaCore.RabbitMQ.Consume
import MsaCore.RabbitMQ.TraceLink
import MsaCore.RabbitMQ.Dispatch
import MsaCore.RabbitMQ.Client
import MsaCore.Jwt.Token
import MsaCore.Jwt.Blacklist
import MsaCore.Redis.Server
import MsaCore.Redis.Client
import MsaCore.Redis.GetDel
import MsaCore.Helpers.Token
import MsaCore.Common.Pagination
import MsaCore.Json.Value
import MsaCore.Json.RoundTrip
import MsaCore.RabbitMQ.JsonBody
import MsaCore.RabbitMQ.ConsumerTag
import MsaCore.Helpers.Polygon
import MsaCore.Shell.Words
import MsaCore.Helpers.Curl
import MsaCore.Common.I18n
import MsaCore.Common.Response
import MsaCore.Common.GlobalI18n
import MsaCore.Middleware.Auth
import MsaCore.Middleware.Tracing
import MsaCore.Redis.Struct
import MsaCore.Jwt.Session
import MsaCore.Middleware.ResponseHandler
import MsaCore.Helpers.Uuid
import MsaCore.Common.Controller
import MsaCore.Cloudinary.Service
