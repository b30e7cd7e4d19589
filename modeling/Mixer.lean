import Mixer.Lists
import Mixer.Api.Messages
import Mixer.Api.Dispatcher
import Mixer.Api.Drain
import Mixer.Api.Wire
import Mixer.Stackdriver.Series
import Mixer.Stackdriver.Delta
import Mixer.Stackdriver.Record
import Mixer.Stackdriver.Push
import Mixer.Kubernetes.GoStrings
import Mixer.Kubernetes.CanonicalName
import Mixer.Api.Handler
import Mixer.Api.Unary
import Mixer.Config.HandlerConfigurer
import Mixer.Config.InferTypes
import Mixer.Config.Registry
import Mixer.Kubernetes.Builder
import Mixer.Kubernetes.Generate
import Mixer.Client.ParseAttributes
import Mixer.Adapter.Severity
import Mixer.Aspect.AttrGen
