import GoCommon.Runtime
import GoCommon.Strconv
import GoCommon.Rand
import GoCommon.Encoding.Utf8
import GoCommon.Encoding.Base64
import GoCommon.Encoding.Json
import GoCommon.Net.Url
import GoCommon.Context
import GoCommon.Uuid
import GoCommon.Retry.Engine
import GoCommon.Retry.Clients
import GoCommon.Retry.Request
import GoCommon.Auth.Scope
import GoCommon.Auth.TokenCache
import GoCommon.Auth.Middleware
import GoCommon.Auth.Admission
import GoCommon.Auth.Revocation
import GoCommon.Auth.TokenAuth
import GoCommon.Auth.Guards
import GoCommon.Context.Fiber
import GoCommon.Limiter.IPLimiter
import GoCommon.Limiter.Eviction
import GoCommon.Limiter.Config
import GoCommon.Cache.Memory
import GoCommon.Cache.Helpers
import GoCommon.Pagination.Params
import GoCommon.Pagination.Cursor
import GoCommon.Audit.Changes
import GoCommon.Common.Phone
import GoCommon.Common.Password
import GoCommon.Common.Otp
import GoCommon.Crypto
import GoCommon.Http.Validation
import GoCommon.Http.Tenant
import GoCommon.Http.Audit
import GoCommon.Http.RequestId
import GoCommon.Response
import GoCommon.Config
import GoCommon.Errors.Repository
import GoCommon.Errors.Service
import GoCommon.Common.Environment
import GoCommon.Health
import GoCommon.Shutdown
