import LwkApp.Descriptor
import LwkApp.Data
import LwkApp.Registry
import LwkApp.Env
import LwkApp.Signers
import LwkApp.Handler.Monad
import LwkApp.Handler.Arms
import LwkApp.Server
import LwkApp.Pool
import LwkApp.App
import LwkApp.Properties.Effects
import LwkApp.Properties.Warnings
import LwkApp.Properties.Resolution
import LwkApp.Properties.Panics
import LwkApp.Properties.Poison
import LwkApp.Properties.Isolation
import LwkApp.Properties.Lifecycle
import LwkApp.Properties.Restart
import LwkApp.Properties.Linearizable
